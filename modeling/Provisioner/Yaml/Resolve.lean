import Provisioner.Decimal.Nearest
import Provisioner.Decimal.Shortest
import Provisioner.Text.Quote
import Provisioner.Yaml.Token

/-! What a scalar stands for when the reader does not ask for a particular type. A plain scalar
is null (empty, `~` or a spelling of null), a boolean, an integer (decimal, or hexadecimal,
octal or binary after `0x`, `0o`, `0b`; words first, then wider integers), a finite float, or
else a string; digits with a leading zero are a string, not a number. A quoted or block
scalar is a string. A tag from the core schema insists on its type and refuses text that does
not fit it; a local tag leaves a plain scalar to be resolved as if untagged. -/

namespace Provisioner.Yaml

inductive Meaning where
  | null
  | bool (b : Bool)
  | unsigned (n : Nat)
  | signed (n : Int)
  | wideUnsigned (n : Nat)
  | wideSigned (n : Int)
  | float (f : Float)
  | str (s : String)

def floatText (f : Float) : String :=
  if f.isNaN then "NaN"
  else if f.isInf then (if f > 0 then "inf" else "-inf")
  else
    let s := Decimal.positionalText f
    if s.contains '.' then s else s ++ ".0"

def Meaning.describe : Meaning → String
  | .null => "unit value"
  | .bool b => "boolean `" ++ toString b ++ "`"
  | .unsigned n => "integer `" ++ toString n ++ "`"
  | .signed n => "integer `" ++ toString n ++ "`"
  | .wideUnsigned n => "integer `" ++ toString n ++ "` as u128"
  | .wideSigned n => "integer `" ++ toString n ++ "` as i128"
  | .float f => "floating point `" ++ floatText f ++ "`"
  | .str s => "string " ++ Text.quote s

def isNullWord (s : String) : Bool := s == "~" || s == "null" || s == "Null" || s == "NULL"

def boolWord? (s : String) : Option Bool :=
  if s == "true" || s == "True" || s == "TRUE" then some true
  else if s == "false" || s == "False" || s == "FALSE" then some false
  else none

def digitsButNotNumber (s : String) : Bool :=
  let cs := match s.toList with
    | '-' :: rest | '+' :: rest => rest
    | cs => cs
  match cs with
  | '0' :: rest => !rest.isEmpty && rest.all Char.isDigit
  | _ => false

def digitValue (c : Char) : Nat :=
  if c.isDigit then c.toNat - 48
  else if 'a' ≤ c && c ≤ 'z' then c.toNat - 87
  else if 'A' ≤ c && c ≤ 'Z' then c.toNat - 55
  else 36

def digitsValue (radix : Nat) : List Char → Nat → Option Nat
  | [], acc => some acc
  | c :: rest, acc =>
    let d := digitValue c
    if d < radix then digitsValue radix rest (radix * acc + d) else none

def radixValue (s : String) (radix : Nat) (signed : Bool) (lo hi : Int) : Option Int :=
  let (negative, digits) : Bool × List Char := match s.toList with
    | ['+'] | ['-'] => (false, [])
    | '+' :: rest => (false, rest)
    | '-' :: rest => if signed then (true, rest) else (false, '-' :: rest)
    | cs => (false, cs)
  if digits.isEmpty then none else
  match digitsValue radix digits 0 with
  | none => none
  | some n =>
    let v : Int := if negative then -(n : Int) else n
    if lo ≤ v && v < hi then some v else none

def radixPrefixes : List (String × Nat) := [("0x", 16), ("0o", 8), ("0b", 2)]

def startsWithSign (s : String) : Bool := s.startsWith "+" || s.startsWith "-"

def unsignedValue? (s : String) (bound : Nat) : Option Nat :=
  let unpositive := if s.startsWith "+" then s.drop 1 |>.toString else s
  let viaPrefix : Option (Option Nat) := radixPrefixes.findSome? fun (pfx, radix) =>
    if unpositive.startsWith pfx then
      let rest := (unpositive.drop 2).toString
      if startsWithSign rest then some none
      else (radixValue rest radix false 0 bound).map (some ·.toNat)
    else none
  match viaPrefix with
  | some r => r
  | none =>
    if startsWithSign unpositive || digitsButNotNumber s then none
    else (radixValue unpositive 10 false 0 bound).map (·.toNat)

def signedValue? (s : String) (half : Nat) : Option Int :=
  let viaPrefix := radixPrefixes.findSome? fun (pfx, radix) =>
    if s.startsWith ("-" ++ pfx) then
      radixValue ("-" ++ (s.drop 3).toString) radix true (-(half : Int)) half
    else none
  match viaPrefix with
  | some v => some v
  | none =>
    if digitsButNotNumber s then none else radixValue s 10 true (-(half : Int)) half

def intMeaning? (s : String) : Option Meaning :=
  match unsignedValue? s (Nat.pow 2 64) with
  | some n => some (.unsigned n)
  | none => match signedValue? s (Nat.pow 2 63) with
    | some n => some (.signed n)
    | none => match unsignedValue? s (Nat.pow 2 128) with
      | some n => some (.wideUnsigned n)
      | none => (signedValue? s (Nat.pow 2 127)).map .wideSigned

def digitRun : List Char → Nat → Nat → Nat × Nat × List Char
  | [], v, n => (v, n, [])
  | c :: rest, v, n =>
    if c.isDigit then digitRun rest (10 * v + (c.toNat - 48)) (n + 1) else (v, n, c :: rest)

def exponentPart : List Char → Option Int
  | [] => some 0
  | e :: rest =>
    if e != 'e' && e != 'E' then none else
    let (negative, digits) := match rest with
      | '+' :: ds => (false, ds)
      | '-' :: ds => (true, ds)
      | ds => (false, ds)
    let (v, n, tail) := digitRun digits 0 0
    if n = 0 || !tail.isEmpty then none
    else some (if negative then -(v : Int) else v)

def decimalFloat? (s : String) : Option Float :=
  let (negative, body) : Bool × List Char := match s.toList with
    | '+' :: rest => (false, rest)
    | '-' :: rest => (true, rest)
    | cs => (false, cs)
  let word := (String.ofList body).toLower
  let signed (f : Float) := if negative then -f else f
  if word == "inf" || word == "infinity" then some (signed (1.0 / 0.0))
  else if word == "nan" then some (0.0 / 0.0)
  else
    let (a, na, rest) := digitRun body 0 0
    let (b, nb, rest) := match rest with
      | '.' :: more => digitRun more 0 0
      | _ => (0, 0, rest)
    if na + nb = 0 then none else
    match exponentPart rest with
    | none => none
    | some e => some (signed (Decimal.nearest (a * Nat.pow 10 nb + b) (e - nb)))

def floatValue? (s : String) : Option Float :=
  let unpositive := if s.startsWith "+" then (s.drop 1).toString else s
  if s.startsWith "+" && startsWithSign unpositive then none
  else if unpositive == ".inf" || unpositive == ".Inf" || unpositive == ".INF" then
    some (1.0 / 0.0)
  else if s == "-.inf" || s == "-.Inf" || s == "-.INF" then some (-(1.0 / 0.0))
  else if s == ".nan" || s == ".NaN" || s == ".NAN" then some (0.0 / 0.0)
  else match decimalFloat? unpositive with
    | some f => if f.isFinite then some f else none
    | none => none

def plainMeaning (s : String) : Meaning :=
  if s.isEmpty || isNullWord s then .null
  else match boolWord? s with
    | some b => .bool b
    | none => match intMeaning? s with
      | some m => m
      | none =>
        if digitsButNotNumber s then .str s
        else match floatValue? s with
          | some f => .float f
          | none => .str s

def boolTag : String := "tag:yaml.org,2002:bool"

def intTag : String := "tag:yaml.org,2002:int"

def floatTag : String := "tag:yaml.org,2002:float"

def nullTag : String := "tag:yaml.org,2002:null"

def refusedByTag (s expected : String) : String :=
  "invalid value: string " ++ Text.quote s ++ ", expected " ++ expected

/-- What a scalar stands for, given its tag and style, or the words of a refusal by its tag. -/
def scalarMeaning (tag : Option String) (text : String) (style : ScalarStyle) :
    Except String Meaning :=
  match tag with
  | some t =>
    if t == boolTag then
      match boolWord? text with
      | some b => .ok (.bool b)
      | none => .error (refusedByTag text "a boolean")
    else if t == intTag then
      match intMeaning? text with
      | some m => .ok m
      | none => .error (refusedByTag text "an integer")
    else if t == floatTag then
      match floatValue? text with
      | some f => .ok (.float f)
      | none => .error (refusedByTag text "a float")
    else if t == nullTag then
      if isNullWord text then .ok .null else .error (refusedByTag text "null")
    else if t.startsWith "!" && style == .plain then .ok (plainMeaning text)
    else .ok (.str text)
  | none => .ok (if style == .plain then plainMeaning text else .str text)

end Provisioner.Yaml
