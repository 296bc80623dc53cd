import Provisioner.Yaml.Document

/-! A loaded document as a tree of texts: scalars keep their text, sequences their items and
mappings their entries in order; an empty node is an empty scalar, and an alias stands for a
copy of the node it names. Reading is bounded by a step budget, so a document whose aliases
would unfold into too large a tree ends early with what was read. -/

namespace Provisioner.Yaml

inductive Tree where
  | scalar (text : String)
  | seq (items : List Tree)
  | map (entries : List (Tree × Tree))
  deriving Repr, Inhabited

mutual

/-- Reads the node starting at an item, giving it and the position after it. -/
def readTree (items : Array (Item × Mark)) : Nat → Nat → Option (Tree × Nat)
  | 0, _ => none
  | fuel + 1, i =>
    match items[i]? with
    | some (.scalar _ t _, _) => some (.scalar t, i + 1)
    | some (.void, _) => some (.scalar "", i + 1)
    | some (.alias target, _) => (readTree items fuel target).map fun (t, _) => (t, i + 1)
    | some (.sequenceStart _, _) =>
      (readItems items fuel (i + 1)).map fun (ts, j) => (.seq ts, j)
    | some (.mappingStart _, _) =>
      (readEntries items fuel (i + 1)).map fun (es, j) => (.map es, j)
    | _ => none

def readItems (items : Array (Item × Mark)) : Nat → Nat → Option (List Tree × Nat)
  | 0, _ => none
  | fuel + 1, i =>
    match items[i]? with
    | some (.sequenceEnd, _) => some ([], i + 1)
    | some _ => do
      let (t, j) ← readTree items fuel i
      let (ts, k) ← readItems items fuel j
      return (t :: ts, k)
    | none => none

def readEntries (items : Array (Item × Mark)) : Nat → Nat → Option (List (Tree × Tree) × Nat)
  | 0, _ => none
  | fuel + 1, i =>
    match items[i]? with
    | some (.mappingEnd, _) => some ([], i + 1)
    | some _ => do
      let (k, j) ← readTree items fuel i
      let (v, j) ← readTree items fuel j
      let (es, n) ← readEntries items fuel j
      return ((k, v) :: es, n)
    | none => none

end

def Document.tree (doc : Document) : Tree :=
  match readTree doc.items (16 * doc.items.size + 16) 0 with
  | some (t, _) => t
  | none => .scalar ""

namespace Tree

def field? (t : Tree) (key : String) : Option Tree :=
  match t with
  | .map es => (es.find? fun (k, _) => match k with | .scalar s => s == key | _ => false).map (·.2)
  | _ => none

def text? : Tree → Option String
  | .scalar s => some s
  | _ => none

def items : Tree → List Tree
  | .seq ts => ts
  | _ => []

end Tree

end Provisioner.Yaml
