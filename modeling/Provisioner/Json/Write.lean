import Provisioner.Json.Value
import Provisioner.Decimal.Shortest

/-! Compact JSON text: no blanks, members in ascending key order, characters other than the
quote, the backslash and controls written as they are, doubles in shortest exponent notation
and non-finite doubles as `null`. -/

namespace Provisioner

namespace Number

def text : Number → String
  | .nat n => toString n.toNat
  | .neg n => toString n.toInt
  | .float f => if f.isFinite then Decimal.scientificText f else "null"

end Number

namespace Json

def hexDigit (n : Nat) : Char :=
  if n < 10 then Char.ofNat (48 + n) else Char.ofNat (87 + n)

def escapeChar (c : Char) : String :=
  match c with
  | '"' => "\\\""
  | '\\' => "\\\\"
  | '\n' => "\\n"
  | '\r' => "\\r"
  | '\t' => "\\t"
  | '\x08' => "\\b"
  | '\x0c' => "\\f"
  | c =>
    if c.toNat < 0x20 then
      "\\u00" ++ String.singleton (hexDigit (c.toNat / 16)) ++
        String.singleton (hexDigit (c.toNat % 16))
    else String.singleton c

def quote (s : String) : String :=
  "\"" ++ String.join (s.toList.map escapeChar) ++ "\""

def sortMembers {α : Type} (members : List (String × α)) : List (String × α) :=
  members.mergeSort fun a b => !(b.1 < a.1)

theorem sizeOf_member_lt {kv : String × Json} {members : List (String × Json)}
    (h : kv ∈ members) : sizeOf kv.2 < 1 + sizeOf members := by
  have := List.sizeOf_lt_of_mem h
  cases kv
  simp only [Prod.mk.sizeOf_spec] at this ⊢
  omega

def write : Json → String
  | .null => "null"
  | .bool b => if b then "true" else "false"
  | .num n => n.text
  | .str s => quote s
  | .arr items => "[" ++ ",".intercalate (items.attach.map fun ⟨j, _⟩ => write j) ++ "]"
  | .obj members =>
    let sorted := members.attach.mergeSort fun a b => !(b.val.1 < a.val.1)
    "\x7b" ++ ",".intercalate (sorted.map fun ⟨kv, h⟩ =>
      have := sizeOf_member_lt h
      quote kv.1 ++ ":" ++ write kv.2) ++ "\x7d"

end Json

end Provisioner
