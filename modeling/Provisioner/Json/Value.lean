/-! JSON values as the library keeps them: integers that fit a 64-bit word stay exact, every
other number is a double, and an object is a list of members whose order does not matter to
any writer here, since writers order members by key. -/

namespace Provisioner

inductive Number where
  | nat (n : UInt64)
  | neg (n : Int64)
  | float (f : Float)

inductive Json where
  | null
  | bool (b : Bool)
  | num (n : Number)
  | str (s : String)
  | arr (items : List Json)
  | obj (members : List (String × Json))

namespace Json

instance : Inhabited Json := ⟨.null⟩

def ofNat (n : Nat) : Json := .num (.nat n.toUInt64)

def ofStrings (members : List (String × String)) : Json :=
  .obj (members.map fun (k, v) => (k, .str v))

/-- The member of an object under a key, the last one when a key repeats. -/
def get? (j : Json) (key : String) : Option Json :=
  match j with
  | .obj members => (members.reverse.find? (·.1 == key)).map (·.2)
  | _ => none

def field? (j : Json) (key : String) : Option Json :=
  match j.get? key with
  | some .null => none
  | other => other

def insertMember (members : List (String × Json)) (key : String) (v : Json) : List (String × Json) :=
  members.filter (·.1 != key) ++ [(key, v)]

end Json

end Provisioner
