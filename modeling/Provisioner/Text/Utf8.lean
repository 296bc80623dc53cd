/-! Reading UTF-8. The bytes split into characters and invalid pieces; an invalid piece is a
lead byte with the longest run of continuation bytes that could still have begun a
character, so each piece stands for one replacement character in a lossy reading. -/

namespace Provisioner.Text.Utf8

def isTail (b : UInt8) : Bool := 0x80 ≤ b && b ≤ 0xBF

def secondFits (a b : UInt8) : Bool :=
  if a == 0xE0 then 0xA0 ≤ b && b ≤ 0xBF
  else if a == 0xED then 0x80 ≤ b && b ≤ 0x9F
  else if a == 0xF0 then 0x90 ≤ b && b ≤ 0xBF
  else if a == 0xF4 then 0x80 ≤ b && b ≤ 0x8F
  else isTail b

def low (b : UInt8) : Nat := b.toNat % 64

def pieces : List UInt8 → List (Option Char)
  | [] => []
  | a :: rest =>
    if a < 0x80 then some (Char.ofNat a.toNat) :: pieces rest
    else if 0xC2 ≤ a && a ≤ 0xDF then
      match h : rest with
      | b :: r =>
        if isTail b then some (Char.ofNat ((a.toNat % 32) * 64 + low b)) :: pieces r
        else none :: pieces rest
      | [] => [none]
    else if 0xE0 ≤ a && a ≤ 0xEF then
      match h : rest with
      | b :: r =>
        if secondFits a b then
          match h2 : r with
          | c :: r' =>
            if isTail c then
              some (Char.ofNat ((a.toNat % 16) * 4096 + low b * 64 + low c)) :: pieces r'
            else none :: pieces r
          | [] => [none]
        else none :: pieces rest
      | [] => [none]
    else if 0xF0 ≤ a && a ≤ 0xF4 then
      match h : rest with
      | b :: r =>
        if secondFits a b then
          match h2 : r with
          | c :: r' =>
            if isTail c then
              match h3 : r' with
              | d :: r'' =>
                if isTail d then
                  some (Char.ofNat ((a.toNat % 8) * 262144 + low b * 4096 + low c * 64 + low d))
                    :: pieces r''
                else none :: pieces r'
              | [] => [none]
            else none :: pieces r
          | [] => [none]
        else none :: pieces rest
      | [] => [none]
    else none :: pieces rest
termination_by bytes => bytes.length
decreasing_by all_goals (subst_vars; simp only [List.length_cons]; omega)

/-- The text of the bytes, each invalid piece read as the replacement character. -/
def lossy (bytes : List UInt8) : String :=
  String.ofList ((pieces bytes).map fun p => p.getD '�')

def decode? (bytes : List UInt8) : Option String :=
  ((pieces bytes).mapM id).map String.ofList

def encode (s : String) : List UInt8 := s.toUTF8.toList

end Provisioner.Text.Utf8
