/-! Similarity of words, for suggesting the argument, subcommand or value a mistyped word meant.

The measure is Jaro's. Scanning the first word from the left, each character takes the first
unmatched equal character of the second word that lies within the search range of its
position: half the longer length, less one. A match left of the previous match counts as a
transposition. The similarity is the mean of three shares: the matched share of each word, and
the share of matches that are not transpositions. Two empty words are alike, one empty word is
like nothing, and two one-letter words are alike exactly when equal. The shares are computed
in binary floating point, and a word is suggested when its similarity exceeds 0.7. -/

namespace Provisioner.Cli

structure Scan where
  taken : List Bool
  matched : Nat
  swapped : Nat
  last : Nat

def freeMatch (b : List Char) (taken : List Bool) (c : Char) (lo hi : Nat) : Option Nat :=
  (List.range (hi + 1)).find? fun j => lo ≤ j && b[j]? == some c && !(taken[j]?.getD true)

def Scan.step (b : List Char) (range : Nat) (s : Scan) (ci : Char × Nat) : Scan :=
  let (c, i) := ci
  match freeMatch b s.taken c (i - range) (min (b.length - 1) (i + range)) with
  | some j => ⟨s.taken.set j true, s.matched + 1, s.swapped + (if j < s.last then 1 else 0), j⟩
  | none => s

def scanMatches (a b : List Char) (range : Nat) : Scan :=
  a.zipIdx.foldl (Scan.step b range) ⟨b.map fun _ => false, 0, 0, 0⟩

/-- The similarity of two words, between 0 and 1. -/
def similarity (x y : String) : Float :=
  let a := x.toList
  let b := y.toList
  if a.isEmpty && b.isEmpty then 1.0
  else if a.isEmpty || b.isEmpty then 0.0
  else if a.length == 1 && b.length == 1 then (if a == b then 1.0 else 0.0)
  else
    let s := scanMatches a b (max a.length b.length / 2 - 1)
    if s.matched == 0 then 0.0
    else
      let m := s.matched.toFloat
      (1.0 / 3.0) * (m / a.length.toFloat + m / b.length.toFloat + (m - s.swapped.toFloat) / m)

def similar (word : String) (candidates : List String) : List String :=
  let scored := (candidates.map fun c => (similarity word c, c)).filter fun p => p.1 > 0.7
  (scored.mergeSort fun p q => p.1 ≤ q.1).map (·.2)

def closest (word : String) (candidates : List String) : Option String :=
  (similar word candidates).getLast?

end Provisioner.Cli
