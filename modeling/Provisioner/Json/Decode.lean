import Provisioner.Json.Reader

/-! Reading JSON text against an expected shape: a string, a bounded unsigned integer, a list,
or a record of named fields. A record is read from a map, where unknown members are skipped, a
field may not repeat and every field without a default must appear, or from a list holding the
fields in order. What is read comes back as a `Json` value: a record as an object with its
fields in declared order. -/

namespace Provisioner.Json

inductive Shape where
  | text
  | word (bound : Nat) (name : String)
  | list (item : Shape)
  | record (name : String) (fields : List (String × Shape × Option Json))
  | anything

namespace Reader

/-- What stands at the reader, for a diagnostic about a value of the wrong kind: reads past a
scalar, stops before a list or map. -/
def found : Reader Found := do
  match ← peek? with
  | some c =>
    if c == 110 then bump; expectIdent [117, 108, 108]; return .null
    else if c == 116 then bump; expectIdent [114, 117, 101]; return .bool true
    else if c == 102 then bump; expectIdent [97, 108, 115, 101]; return .bool false
    else if c == 45 then bump; return ofParsed (← integer false)
    else if isDigit c then return ofParsed (← integer true)
    else if c == 34 then bump; return .str (← text)
    else if c == 91 then return .seq
    else if c == 123 then return .map
    else failAhead (.malformed .expectedValue)
  | none => failAhead (.malformed .expectedValue)
where
  ofParsed : Parsed → Found
    | .nat n => .unsigned n
    | .neg n => .signed (-(n : Int))
    | .float f => .float f

def mismatch {α : Type} (expected : String) : Reader α := do
  let f ← found
  throw (← placed ⟨.invalidType f expected, none⟩)

def recordWithCount (name : String) (n : Nat) : String :=
  "struct " ++ name ++ " with " ++ toString n ++ (if n = 1 then " element" else " elements")

mutual

def decode : Nat → Shape → Reader Json
  | 0, _ => failHere (.malformed .outOfFuel)
  | _ + 1, .text => fixing do
    match ← skipBlanks with
    | none => failAhead (.malformed .eofValue)
    | some c => if c == 34 then bump; return .str (← text) else mismatch "a string"
  | _ + 1, .word bound name => fixing do
    match ← skipBlanks with
    | none => failAhead (.malformed .eofValue)
    | some c =>
      let n? ← if c == 45 then do bump; some <$> integer false
        else if isDigit c then some <$> integer true
        else pure none
      match n? with
      | none => mismatch name
      | some (.nat n) =>
        if n ≤ bound then return .num (.nat n.toUInt64)
        else throw ⟨.invalidValue (.unsigned n) name, none⟩
      | some (.neg n) => throw ⟨.invalidValue (.signed (-(n : Int))) name, none⟩
      | some (.float f) => throw ⟨.invalidType (.float f) name, none⟩
  | fuel + 1, .list item => fixing do
    match ← skipBlanks with
    | none => failAhead (.malformed .eofValue)
    | some c =>
      if c == 91 then
        bump
        let body ← attempt (listItems fuel item true [])
        closing body endList
      else mismatch "a sequence"
  | fuel + 1, .record name fields => fixing do
    match ← skipBlanks with
    | none => failAhead (.malformed .eofValue)
    | some c =>
      if c == 91 then
        bump
        let body ← attempt (recordItems fuel name fields.length 0 fields [])
        closing body endList
      else if c == 123 then
        bump
        let body ← attempt (recordMembers fuel fields true [])
        closing body endMap
      else mismatch ("struct " ++ name)
  | fuel + 1, .anything => value fuel 128

def listItems : Nat → Shape → Bool → List Json → Reader Json
  | 0, _, _, _ => failHere (.malformed .outOfFuel)
  | fuel + 1, item, first, acc => do
    if ← nextItem first then
      let v ← decode fuel item
      listItems fuel item false (v :: acc)
    else return .arr acc.reverse

def recordItems : Nat → String → Nat → Nat → List (String × Shape × Option Json) →
    List (String × Json) → Reader Json
  | 0, _, _, _, _, _ => failHere (.malformed .outOfFuel)
  | _ + 1, _, _, _, [], acc => return .obj acc.reverse
  | fuel + 1, name, count, i, (key, shape, dflt) :: rest, acc => do
    if ← nextItem (i == 0) then
      let v ← decode fuel shape
      recordItems fuel name count (i + 1) rest ((key, v) :: acc)
    else
      match dflt with
      | some d => recordItems fuel name count (i + 1) rest ((key, d) :: acc)
      | none => throw ⟨.invalidLength i (recordWithCount name count), none⟩

def recordMembers : Nat → List (String × Shape × Option Json) → Bool →
    List (String × Json) → Reader Json
  | 0, _, _, _ => failHere (.malformed .outOfFuel)
  | fuel + 1, fields, first, acc => do
    if ← nextKey first then
      bump
      let key ← text
      match fields.find? (·.1 == key) with
      | some (_, shape, _) =>
        if acc.any (·.1 == key) then throw ⟨.duplicateField key, none⟩
        colon
        let v ← decode fuel shape
        recordMembers fuel fields false ((key, v) :: acc)
      | none =>
        colon
        skipValue fuel
        recordMembers fuel fields false acc
    else
      let values ← fields.mapM fun (key, _, dflt) =>
        match acc.find? (·.1 == key), dflt with
        | some (_, v), _ => pure (key, v)
        | none, some d => pure (key, d)
        | none, none => throw ⟨.missingField key, none⟩
      return .obj values

end

end Reader

def decodeBytes (shape : Shape) (bytes : ByteArray) : Except ReadError Json :=
  Reader.run (do
    let v ← Reader.decode (Reader.fuelFor bytes) shape
    Reader.finish
    return v) bytes

end Provisioner.Json
