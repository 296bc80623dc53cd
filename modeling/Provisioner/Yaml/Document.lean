import Provisioner.Yaml.Parser

/-! Loading the first document of a YAML stream: its node events in order, each with the mark
where it starts. An anchor names the position of the node it is attached to; an alias is
replaced by that position, and an alias to a name not yet anchored ends the document with a
fault. A fault of the parser ends the document too, keeping the events before it, because the
reading of typed values looks at those events first and reports the fault only when it needs
an event past them. A stream with no document holds a single empty node. -/

namespace Provisioner.Yaml

inductive Item where
  | scalar (tag : Option String) (text : String) (style : ScalarStyle)
  | alias (target : Nat)
  | sequenceStart (tag : Option String)
  | sequenceEnd
  | mappingStart (tag : Option String)
  | mappingEnd
  | void
  deriving DecidableEq, Repr

inductive LoadFault where
  | reading (f : Fault)
  | unknownAnchor (at_ : Mark)
  deriving Repr

def LoadFault.message : LoadFault → String
  | .reading f => f.message
  | .unknownAnchor m => "unknown anchor" ++ (if m.atStart then "" else " at " ++ m.text)

structure Document where
  items : Array (Item × Mark)
  fault : Option LoadFault
  deriving Repr

def isAccepted (c : Char) : Bool :=
  let n := c.toNat
  n == 0x9 || n == 0xA || n == 0xD || (0x20 ≤ n && n ≤ 0x7E) || n == 0x85 ||
    (0xA0 ≤ n && n ≤ 0xD7FF) || (0xE000 ≤ n && n ≤ 0xFFFD) || 0x10000 ≤ n

def refusedAt : List Char → Nat → Option Nat
  | [], _ => none
  | c :: rest, offset => if isAccepted c then refusedAt rest (offset + c.utf8Size) else some offset

def refusedFault (offset : Nat) : Fault :=
  ⟨"control characters are not allowed", Mark.origin, offset, none⟩

def anchored (anchors : List (String × Nat)) (name : String) : Option Nat :=
  (anchors.find? (·.1 == name)).map (·.2)

def bearing (anchor : Option String) (pos : Nat) (anchors : List (String × Nat)) :
    List (String × Nat) :=
  match anchor with
  | some a => (a, pos) :: anchors
  | none => anchors

def loadEvents : Nat → Parser → Array (Item × Mark) → List (String × Nat) →
    Document × Option Parser
  | 0, _, items, _ => (⟨items, some (.reading Fault.exhausted)⟩, none)
  | fuel + 1, p, items, anchors =>
    match p.next with
    | .error f => (⟨items, some (.reading f)⟩, none)
    | .ok (none, _) => (⟨items, none⟩, none)
    | .ok (some e, p) =>
      let here := items.size
      let add (item : Item) (anchor : Option String) :=
        loadEvents fuel p (items.push (item, e.start)) (bearing anchor here anchors)
      match e.kind with
      | .streamStart | .documentStart _ => loadEvents fuel p items anchors
      | .streamEnd =>
        (⟨if items.isEmpty then #[(.void, e.start)] else items, none⟩, none)
      | .documentEnd _ => (⟨items, none⟩, some p)
      | .alias name =>
        match anchored anchors name with
        | some target => add (.alias target) none
        | none => (⟨items, some (.unknownAnchor e.start)⟩, none)
      | .scalar anchor tag text style _ _ => add (.scalar tag text style) anchor
      | .sequenceStart anchor tag _ _ => add (.sequenceStart tag) anchor
      | .sequenceEnd => add .sequenceEnd none
      | .mappingStart anchor tag _ _ => add (.mappingStart tag) anchor
      | .mappingEnd => add .mappingEnd none

def followedByMore : Option Parser → Bool
  | none => false
  | some p =>
    match p.next with
    | .ok (some e, _) => e.kind != .streamEnd
    | .ok (none, _) => false
    | .error _ => true

/-- The first document of a text, and whether the text holds more than one. A character the
reader refuses stops it before the first event. -/
def loadFirst (text : String) : Document × Bool :=
  match refusedAt text.toList 0 with
  | some offset => (⟨#[], some (.reading (refusedFault offset))⟩, false)
  | none =>
    let p := Parser.ofText text
    let (doc, rest) := loadEvents (4 * p.scanner.input.size + 16) p #[] []
    (doc, followedByMore rest)

end Provisioner.Yaml
