import Provisioner.Text.Blank
import Provisioner.Text.Quote

/-! Test durations. A duration is accepted when, blanks trimmed and ASCII letters upper-cased,
it reads `P`, optionally days `nD`, and optionally `T` followed by hours `nH`, minutes `nM`
and seconds `nS` in this order, each optional, seconds with up to nine fraction digits after a
point or comma. At least one part must be present, and a `T` needs one. The duration keeps its
trimmed text as written. -/

namespace Provisioner

structure Duration where
  text : String
  deriving DecidableEq, Repr

namespace Duration

def oneSecond : Duration := ⟨"PT1S"⟩

def isDigit (c : Char) : Bool := '0' ≤ c && c ≤ '9'

def splitFirst (p : Char → Bool) : List Char → Option (List Char × List Char)
  | [] => none
  | c :: cs =>
    if p c then some ([], cs)
    else (splitFirst p cs).map fun (before, after) => (c :: before, after)

def isCount (value : List Char) (fraction : Bool) : Bool :=
  match splitFirst (fun c => c == '.' || c == ',') value with
  | some (whole, frac) =>
    fraction && !whole.isEmpty && whole.all isDigit && frac.length ≤ 9 && frac.all isDigit
  | none => !value.isEmpty && value.all isDigit

def takeUnit (acc : Option (Nat × List Char)) (unit : Char) : Option (Nat × List Char) :=
  acc.bind fun (n, rest) =>
    match splitFirst (· == unit) rest with
    | some (value, tail) => if isCount value (unit == 'S') then some (n + 1, tail) else none
    | none => some (n, rest)

def timeParts (time : List Char) : Option Nat :=
  match ['H', 'M', 'S'].foldl takeUnit (some (0, time)) with
  | some (n, []) => if time.isEmpty then none else some n
  | _ => none

def dayParts (date : List Char) : Option Nat :=
  if date.isEmpty then some 0
  else if date.getLast? == some 'D' && isCount date.dropLast false then some 1
  else none

def parts (upper : List Char) : Option Nat :=
  match upper with
  | 'P' :: rest =>
    let (date, time?) := match splitFirst (· == 'T') rest with
      | some (d, t) => (d, some t)
      | none => (rest, none)
    let times : Option Nat := match time? with
      | some time => timeParts time
      | none => some 0
    match dayParts date, times with
    | some d, some t => if d + t = 0 then none else some (d + t)
    | _, _ => none
  | _ => none

def refusal (s : String) : String :=
  "invalid test duration " ++ Text.quote s ++ ", expected an ISO-8601 duration like PT1S"

/-- Reads a duration; a refusal names the text as given. -/
def parse (s : String) : Except String Duration :=
  let trimmed := Text.trimChars s.toList
  match parts (trimmed.map Char.toUpper) with
  | some _ => .ok ⟨String.ofList trimmed⟩
  | none => .error (refusal s)

end Duration

end Provisioner
