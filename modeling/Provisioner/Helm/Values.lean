import Provisioner.Json.Value
import Provisioner.Json.Write
import Provisioner.Decimal.Shortest
import Provisioner.Yaml.Emit
import Provisioner.Yaml.Resolve

/-! The values of a release as the YAML document handed to helm. Null, booleans and numbers
are plain scalars (doubles in shortest form, the infinities and NaN as `.inf`, `-.inf` and
`.nan`); object members come in ascending key order. A string that would read back as
something else (null, a boolean, a number), or that is digits with a leading zero, asks for
single quotes; a string with a line feed asks for a literal block; any other string may be
plain. The writer may still choose a stronger quoting when the text needs it. -/

namespace Provisioner.Helm

def stringStyle (s : String) : Yaml.Requested :=
  if s.contains '\n' then .literal
  else match Yaml.plainMeaning s with
    | .str _ => if Yaml.digitsButNotNumber s then .singleQuoted else .any
    | _ => .singleQuoted

def numberText : Number → String
  | .nat n => toString n.toNat
  | .neg n => toString n.toInt
  | .float f =>
    if f.isNaN then ".nan"
    else if f.isInf then (if f > 0 then ".inf" else "-.inf")
    else Decimal.scientificText f

def stringScalar (s : String) : Yaml.Scalar := ⟨s, stringStyle s⟩

mutual

def valuesNode : Json → Yaml.Node
  | .null => .scalar ⟨"null", .plain⟩
  | .bool b => .scalar ⟨if b then "true" else "false", .plain⟩
  | .num n => .scalar ⟨numberText n, .plain⟩
  | .str s => .scalar (stringScalar s)
  | .arr items => .seq (valuesItems items)
  | .obj members => .map (valuesEntries members)

def valuesItems : List Json → List Yaml.Node
  | [] => []
  | j :: js => valuesNode j :: valuesItems js

def valuesEntries : List (String × Json) → List (Yaml.Scalar × Yaml.Node)
  | [] => []
  | (k, v) :: ms => (stringScalar k, valuesNode v) :: valuesEntries ms

end

/-- Orders the members of every object by key, all the way down. -/
def sortedDeep : Json → Json
  | .arr items => .arr (items.attach.map fun ⟨j, _⟩ => sortedDeep j)
  | .obj members =>
    .obj (Json.sortMembers (members.attach.map fun ⟨kv, h⟩ =>
      have := Json.sizeOf_member_lt h
      (kv.1, sortedDeep kv.2)))
  | j => j

def valuesYaml (values : Json) : String := (valuesNode (sortedDeep values)).render

end Provisioner.Helm
