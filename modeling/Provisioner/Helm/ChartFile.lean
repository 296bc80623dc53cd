import Provisioner.Release.Error
import Provisioner.Release.Request
import Provisioner.Text.Utf8
import Provisioner.Yaml.Document
import Provisioner.Yaml.Resolve

/-! Reading a chart's `Chart.yaml`: the first YAML document must be a mapping (or nothing at
all) with string fields `name` and `version` and an optional `appVersion`; other keys are
skipped whatever they hold. A value of the wrong shape is reported with the key it belongs to
and the mark where it starts; a duplicate or missing field is reported at the mark of the
mapping. The document's events are read before its own fault is looked at, so a value of the
wrong shape early in a broken text is what gets reported; a second document is refused only
once the first has been read whole. -/

namespace Provisioner.Helm

open Yaml

inductive MetadataFault where
  | load (f : LoadFault)
  | placed (text : String) (at_ : Mark) (path : String)
  | endOfStream
  | repetitionLimit
  | moreThanOneDocument
  deriving Repr

def MetadataFault.message : MetadataFault → String
  | .load f => f.message
  | .placed t m path =>
    (if path == "." then "" else path ++ ": ") ++ t ++ (if m.atStart then "" else " at " ++ m.text)
  | .endOfStream => "EOF while parsing a value"
  | .repetitionLimit => "repetition limit exceeded"
  | .moreThanOneDocument =>
    "deserializing from YAML containing more than one document is not supported"

inductive Slip where
  | unplaced (text : String)
  | done (f : MetadataFault)

def Slip.place (m : Mark) (path : String) : Slip → Slip
  | .unplaced t => .done (.placed t m path)
  | s => s

structure Cursor where
  pos : Nat
  jumps : Nat

abbrev ReadM := StateT Cursor (Except Slip)

def exhausted (doc : Document) : Slip :=
  .done (match doc.fault with
    | some f => .load f
    | none => .endOfStream)

def peekItem (doc : Document) : ReadM (Item × Mark) := do
  match doc.items[(← get).pos]? with
  | some im => return im
  | none => throw (exhausted doc)

def nextItem (doc : Document) : ReadM (Item × Mark) := do
  let im ← peekItem doc
  modify fun c => { c with pos := c.pos + 1 }
  return im

def follow (doc : Document) : Item × Mark → ReadM (Item × Mark)
  | (.alias target, m) => do
    let c ← get
    if c.jumps + 1 > doc.items.size * 100 then throw (.done .repetitionLimit)
    set { c with jumps := c.jumps + 1 }
    match doc.items[target]? with
    | some im => return im
    | none => return (.void, m)
  | im => return im

def unexpected (item : Item) (expected : String) : Slip :=
  match item with
  | .scalar tag text style =>
    match scalarMeaning tag text style with
    | .ok m => .unplaced ("invalid type: " ++ m.describe ++ ", expected " ++ expected)
    | .error refusal => .unplaced refusal
  | .sequenceStart _ => .unplaced ("invalid type: sequence, expected " ++ expected)
  | .mappingStart _ => .unplaced ("invalid type: map, expected " ++ expected)
  | _ => .done .endOfStream

def scalarText (item : Item × Mark) (path expected : String) : Except Slip String :=
  match item.1 with
  | .scalar _ text _ => .ok text
  | other => .error ((unexpected other expected).place item.2 path)

def readString (doc : Document) (path expected : String) : ReadM String := do
  let im ← follow doc (← nextItem doc)
  match scalarText im path expected with
  | .ok s => return s
  | .error e => throw e

def isAbsent : Item → Except Slip Bool
  | .scalar tag text style =>
    if style != .plain then .ok false
    else match tag with
      | some t =>
        if t == nullTag then
          if isNullWord text then .ok true else .error (.unplaced (refusedByTag text "null"))
        else .ok false
      | none => .ok (text.isEmpty || isNullWord text)
  | .void => .ok true
  | _ => .ok false

def readOptionalString (doc : Document) (path : String) : ReadM (Option String) := do
  let first ← peekItem doc
  let im ← match first.1 with
    | .alias _ => do
      modify fun c => { c with pos := c.pos + 1 }
      follow doc first
    | _ => pure first
  match isAbsent im.1 with
  | .error e => throw e
  | .ok true =>
    if let .alias _ := first.1 then pure () else modify fun c => { c with pos := c.pos + 1 }
    return none
  | .ok false =>
    if let .alias _ := first.1 then
      match scalarText im path "a string" with
      | .ok s => return some s
      | .error e => throw e
    else some <$> readString doc path "a string"

def skipValue (doc : Document) : Nat → Nat → ReadM Unit
  | 0, _ => throw (.done .endOfStream)
  | fuel + 1, depth => do
    let (item, _) ← nextItem doc
    let depth := match item with
      | .sequenceStart _ | .mappingStart _ => depth + 1
      | .sequenceEnd | .mappingEnd => depth - 1
      | _ => depth
    if depth == 0 then return else skipValue doc fuel depth

structure Fields where
  name : Option String
  version : Option String
  appVersion : Option (Option String)

def valuePath (item : Item) : String :=
  match item with
  | .scalar _ text _ => text
  | _ => "?"

def readEntries (doc : Document) : Nat → Fields → ReadM Fields
  | 0, _ => throw (.done .endOfStream)
  | fuel + 1, fields => do
    let (item, _) ← peekItem doc
    match item with
    | .mappingEnd | .void => return fields
    | _ =>
      let path := valuePath item
      let key ← readString doc "." "field identifier"
      let fields ← match key with
        | "name" =>
          if fields.name.isSome then throw (.unplaced "duplicate field `name`")
          let v ← readString doc path "a string"
          pure { fields with name := some v }
        | "version" =>
          if fields.version.isSome then throw (.unplaced "duplicate field `version`")
          let v ← readString doc path "a string"
          pure { fields with version := some v }
        | "appVersion" =>
          if fields.appVersion.isSome then throw (.unplaced "duplicate field `appVersion`")
          let v ← readOptionalString doc path
          pure { fields with appVersion := some v }
        | _ => do
          skipValue doc (doc.items.size + 1) 0
          pure fields
      readEntries doc fuel fields

def Fields.finish (f : Fields) : Except Slip ChartMetadata :=
  match f.name, f.version with
  | none, _ => .error (.unplaced "missing field `name`")
  | some _, none => .error (.unplaced "missing field `version`")
  | some n, some v => .ok ⟨n, v, f.appVersion.getD none⟩

/-- Reads the metadata mapping; an empty document or empty plain scalar reads as an empty
mapping. Faults without a place get the mark of the mapping. -/
def readMetadata (doc : Document) : ReadM ChartMetadata := do
  let im ← follow doc (← nextItem doc)
  let (item, mark) := im
  let placeHere {α : Type} (x : Except Slip α) : ReadM α :=
    match x with
    | .ok a => pure a
    | .error e => throw (e.place mark ".")
  let empty : Fields := ⟨none, none, none⟩
  match item with
  | .mappingStart _ =>
    let fields ← tryCatch (readEntries doc (doc.items.size + 1) empty) fun e =>
      throw (e.place mark ".")
    let m ← placeHere fields.finish
    let _ ← nextItem doc
    return m
  | .void => placeHere empty.finish
  | .scalar _ "" .plain => placeHere empty.finish
  | other => placeHere (.error (unexpected other "struct ChartMetadata"))

def parseMetadata (text : String) : Except MetadataFault ChartMetadata :=
  let (doc, more) := loadFirst text
  match (readMetadata doc).run ⟨0, 0⟩ with
  | .error (.unplaced t) => .error (.placed t Mark.origin ".")
  | .error (.done f) => .error f
  | .ok (m, _) =>
    match doc.fault with
    | some f => .error (.load f)
    | none => if more then .error .moreThanOneDocument else .ok m

def fileNotFound : String := "No such file or directory (os error 2)"

def notUtf8 : String := "stream did not contain valid UTF-8"

/-- Loads the chart in a directory from the bytes of its `Chart.yaml`, if the file exists. -/
def loadChartFrom (path : String) (file : Option ByteArray) : Except ReleaseError Chart :=
  match file with
  | none => .error (.chartLoad path fileNotFound)
  | some bytes =>
    match Text.Utf8.decode? bytes.toList with
    | none => .error (.chartLoad path notUtf8)
    | some text =>
      match parseMetadata text with
      | .ok m => .ok ⟨path, m⟩
      | .error f => .error (.chartLoad path f.message)

end Provisioner.Helm
