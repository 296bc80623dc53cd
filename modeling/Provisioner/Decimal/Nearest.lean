/-! The double nearest to a decimal number. The value `m * 10 ^ e` is computed exactly as a
ratio of natural numbers; the binary exponent is chosen so that the quotient has 53 bits (or,
below the normal range, so that it counts multiples of the least subnormal), and the quotient
is rounded half to even from the remainder. Values too large for a double give infinity. -/

namespace Provisioner.Decimal

def bitLength (n : Nat) : Nat := if n = 0 then 0 else Nat.log2 n + 1

def divRound (n d : Nat) : Nat :=
  let q := n / d
  let r := n % d
  if 2 * r > d || (2 * r == d && q % 2 == 1) then q + 1 else q

def scaledRound (num den : Nat) (s : Int) : Nat :=
  if s ≥ 0 then divRound (num <<< s.toNat) den else divRound num (den <<< s.natAbs)

def nearestRatio (num den : Nat) : Float :=
  if num = 0 then 0 else
  -- first guess at the scale that gives a 53-bit quotient, then one correction
  let s0 : Int := 52 - ((bitLength num : Int) - bitLength den)
  let s := if (if s0 ≥ 0 then (num <<< s0.toNat) / den else num / (den <<< s0.natAbs)) <
      Nat.pow 2 52 then s0 + 1 else s0
  let s := min s 1074
  let q := scaledRound num den s
  -- rounding up may carry into a 54th bit
  let (q, s) := if q ≥ Nat.pow 2 53 then (q / 2, s - 1) else (q, s)
  let e := 52 - s
  if e > 1023 then Float.ofBits 0x7FF0000000000000
  else if q < Nat.pow 2 52 then Float.ofBits q.toUInt64
  else Float.ofBits ((((e + 1023).toNat) <<< 52) ||| (q - Nat.pow 2 52)).toUInt64

/-- The double nearest to `m * 10 ^ e`; exponents far outside the range of doubles give zero or
infinity without computing the power. -/
def nearest (m : Nat) (e : Int) : Float :=
  if m = 0 then 0 else
  let magnitude := (Nat.toDigits 10 m).length + e
  if magnitude > 310 then Float.ofBits 0x7FF0000000000000
  else if magnitude < -330 then 0
  else if e ≥ 0 then nearestRatio (m * Nat.pow 10 e.toNat) 1
  else nearestRatio m (Nat.pow 10 e.natAbs)

end Provisioner.Decimal
