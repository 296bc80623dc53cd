/-! Shortest decimal text of a double. A finite double stands for the interval of reals that
round to it; its shortest digits are the fewest significant digits of a decimal inside that
interval, and of two such decimals the one nearer the double, an exact tie going to the even
last digit. All arithmetic is exact, on natural numbers. -/

namespace Provisioner.Decimal

structure Binary where
  mant : Nat
  exp : Int
  narrowBelow : Bool

def Binary.ofBits (bits : UInt64) : Binary :=
  let field := ((bits >>> 52) &&& 0x7FF).toNat
  let frac := (bits &&& 0xFFFFFFFFFFFFF).toNat
  if field = 0 then ⟨frac, -1074, false⟩
  else ⟨frac + Nat.pow 2 52, (field : Int) - 1075, frac = 0 && field > 1⟩

structure Digits where
  digits : Nat
  exponent : Int

def decimalLength (n : Nat) : Nat := (Nat.toDigits 10 n).length

def compareScaled (d : Nat) (k : Int) (x : Nat) (e : Int) : Ordering :=
  let a := (max 0 (-e)).toNat
  let b := (max 0 (-k)).toNat
  compare (d * Nat.pow 10 (k + b).toNat * Nat.pow 2 a) (x * Nat.pow 2 (e + a).toNat * Nat.pow 10 b)

def floorLog10 (x : Nat) (e : Int) : Int :=
  let num := x * Nat.pow 2 (max e 0).toNat
  let den := Nat.pow 2 (max 0 (-e)).toNat
  let t : Int := (decimalLength num : Int) - decimalLength den
  if num * Nat.pow 10 (max 0 (-t)).toNat ≥ den * Nat.pow 10 (max 0 t).toNat then t else t - 1

def Digits.trim (d : Digits) : Digits :=
  go 400 d.digits d.exponent
where
  go : Nat → Nat → Int → Digits
    | 0, n, k => ⟨n, k⟩
    | fuel + 1, n, k => if n ≠ 0 ∧ n % 10 = 0 then go fuel (n / 10) (k + 1) else ⟨n, k⟩

def candidates (b : Binary) (e10 : Int) (p : Nat) : List Digits :=
  let x := 4 * b.mant
  let e := b.exp - 2
  let k := e10 + 1 - p
  let num := x * Nat.pow 2 (max e 0).toNat * Nat.pow 10 (max 0 (-k)).toNat
  let den := Nat.pow 2 (max 0 (-e)).toNat * Nat.pow 10 (max 0 k).toNat
  let q := num / den
  let lower : Digits := ⟨q, k⟩
  let upper : Digits := ⟨q + 1, k⟩
  match compareScaled (2 * q + 1) k (2 * x) e with
  | .gt => [lower, upper]
  | .lt => [upper, lower]
  | .eq => if q % 2 = 0 then [lower, upper] else [upper, lower]

def inInterval (b : Binary) (d : Digits) : Bool :=
  let e := b.exp - 2
  let low := 4 * b.mant - (if b.narrowBelow then 1 else 2)
  let high := 4 * b.mant + 2
  let closed := b.mant % 2 = 0
  let aboveLow := match compareScaled d.digits d.exponent low e with
    | .gt => true
    | .eq => closed
    | .lt => false
  let belowHigh := match compareScaled d.digits d.exponent high e with
    | .lt => true
    | .eq => closed
    | .gt => false
  aboveLow && belowHigh

/-- The shortest digits of a non-zero double; zero gives `0 · 10 ^ 0`. -/
def shortest (b : Binary) : Digits :=
  if b.mant = 0 then ⟨0, 0⟩ else
  let e10 := floorLog10 (4 * b.mant) (b.exp - 2)
  let found := (List.range 17).findSome? fun i =>
    (candidates b e10 (i + 1)).find? (inInterval b)
  (found.getD ⟨b.mant, 0⟩).trim

def ofFloat (f : Float) : Digits := shortest (Binary.ofBits f.toBits)

def signBit (f : Float) : Bool := f.toBits >>> 63 == 1

def zeros (n : Nat) : String := String.ofList (List.replicate n '0')

/-- Exponent notation as the shortest-float writers of JSON and YAML use it: positional for
`10 ^ -5 ≤ |v| < 10 ^ 16`, else one digit, a point and the rest, `e` and the exponent; a
positional integer keeps `.0`. -/
def Digits.scientific (d : Digits) : String :=
  if d.digits = 0 then "0.0" else
  let s := toString d.digits
  let n : Int := s.length
  let k := d.exponent
  let kk := n + k
  if 0 ≤ k ∧ kk ≤ 16 then s ++ zeros k.toNat ++ ".0"
  else if 0 < kk ∧ kk ≤ 16 then
    String.ofList (s.toList.take kk.toNat) ++ "." ++ String.ofList (s.toList.drop kk.toNat)
  else if -5 < kk ∧ kk ≤ 0 then "0." ++ zeros (-kk).toNat ++ s
  else if n = 1 then s ++ "e" ++ toString (kk - 1)
  else String.ofList (s.toList.take 1) ++ "." ++ String.ofList (s.toList.drop 1) ++ "e" ++
    toString (kk - 1)

def Digits.positional (d : Digits) : String :=
  if d.digits = 0 then "0" else
  let s := toString d.digits
  let n : Int := s.length
  let k := d.exponent
  let kk := n + k
  if 0 ≤ k then s ++ zeros k.toNat
  else if 0 < kk then
    String.ofList (s.toList.take kk.toNat) ++ "." ++ String.ofList (s.toList.drop kk.toNat)
  else "0." ++ zeros (-kk).toNat ++ s

def scientificText (f : Float) : String :=
  (if signBit f then "-" else "") ++ (ofFloat f).scientific

def positionalText (f : Float) : String :=
  (if signBit f then "-" else "") ++ (ofFloat f).positional

end Provisioner.Decimal
