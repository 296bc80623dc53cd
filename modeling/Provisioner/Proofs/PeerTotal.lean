import Mathlib
import Provisioner.Proofs.Peers

/-!
# The number of peers

The total is summed as a 32-bit word with overflow checks: each count is added to the running
total, and the first partial sum past `wordLimit` panics. Counts are never negative, so the
partial sums only grow and the fold panics exactly when the whole sum passes the limit; it never
gives a wrapped value (`foldlM_addWord`). A total that fits is the number of addresses the
descriptor lists, counted over its non-empty segments (`addressCount_descriptor`).
-/

namespace Provisioner.Topology

theorem foldlM_addWord (counts : List Nat) (total : Nat) (h : total ≤ wordLimit) :
    counts.foldlM addWord total =
      if total + counts.sum ≤ wordLimit then .ok (total + counts.sum) else .error addOverflow := by
  induction counts generalizing total with
  | nil =>
    rw [List.foldlM_nil, List.sum_nil, Nat.add_zero, if_pos h]
    rfl
  | cons c cs ih =>
    by_cases hc : total + c ≤ wordLimit
    · have hrest := ih (total + c) hc
      simp only [List.foldlM_cons, addWord, if_pos hc]
      rw [List.sum_cons, ← Nat.add_assoc, ← hrest]
      rfl
    · -- this partial sum already overflows, and so does every larger one
      have hsum : ¬total + (c :: cs).sum ≤ wordLimit := by
        simp only [List.sum_cons]
        omega
      simp only [List.foldlM_cons, addWord, if_neg hc, if_neg hsum]
      rfl

theorem counts_ofCounts (counts : List Nat) : (ofCounts counts).counts = counts := by
  apply List.ext_getElem?
  intro i
  simp [Topology.counts, ofCounts, getElem?_numbered, Option.map_map, Function.comp_def]

theorem totalPeers_ofCounts (counts : List Nat) :
    (ofCounts counts).totalPeers =
      if counts.sum ≤ wordLimit then .ok counts.sum else .error addOverflow := by
  rw [totalPeers, counts_ofCounts, foldlM_addWord counts 0 (by simp [wordLimit]), Nat.zero_add]

/-! ### Counting the addresses of a descriptor -/

def addressCount (d : String) : Nat :=
  (((d.toList.splitOn ';').filter (· ≠ [])).map fun seg => (seg.splitOn ',').length).sum

theorem segmentCount (port : Nat) (ps : List Peerset) :
    (((ps.map fun p => (",".intercalate (addresses port p)).toList).filter (· ≠ [])).map
      fun seg => (seg.splitOn ',').length).sum = (ps.map (·.peers)).sum := by
  induction ps with
  | nil => rfl
  | cons p ps ih =>
    simp only [List.map_cons, List.filter_cons, List.sum_cons]
    by_cases hp : p.peers = 0
    · have hseg := (segment_eq_nil_iff port p).2 hp
      simp only [hseg, ne_eq, not_true_eq_false, decide_false, Bool.false_eq_true, if_false, ih,
        hp, Nat.zero_add]
    · have hseg : (",".intercalate (addresses port p)).toList ≠ [] :=
        fun h => hp ((segment_eq_nil_iff port p).1 h)
      rw [if_pos (by simpa using hseg), List.map_cons, List.sum_cons, ih, splitOn_segment port p hp]
      simp [addresses]

theorem addressCount_descriptor (counts : List Nat) (port : Nat) :
    addressCount ((ofCounts counts).descriptor port) = counts.sum := by
  by_cases hc : counts = []
  · subst hc
    rfl
  · rw [addressCount, splitOn_descriptor _ port (peersets_ofCounts_ne_nil hc), segmentCount]
    conv_rhs => rw [← counts_ofCounts counts]
    rfl

/-- Summing the peers of a topology built from counts gives their sum when it fits in a 32-bit
word and otherwise panics with the overflow message, never a wrapped value; a total it gives is
the number of peer addresses the descriptor lists at every port. -/
theorem totalPeers_checked_sum (counts : List Nat) :
    (ofCounts counts).totalPeers =
      (if counts.sum ≤ Nat.pow 2 32 - 1 then .ok counts.sum
        else .error "attempt to add with overflow") ∧
    ∀ n, (ofCounts counts).totalPeers = .ok n →
      ∀ port, addressCount ((ofCounts counts).descriptor port) = n := by
  refine ⟨totalPeers_ofCounts counts, fun n hn port => ?_⟩
  rw [totalPeers_ofCounts] at hn
  split at hn
  · cases hn
    exact addressCount_descriptor counts port
  · cases hn

theorem totalPeers_checked_sum_sample :
    (ofCounts [1, 0, 2]).totalPeers = .ok 3 ∧
      addressCount ((ofCounts [1, 0, 2]).descriptor 8080) = 3 ∧
      (ofCounts [4294967295, 1]).totalPeers = .error "attempt to add with overflow" := by
  have hfits : (ofCounts [1, 0, 2]).totalPeers = .ok 3 := by
    rw [(totalPeers_checked_sum [1, 0, 2]).1]
    rfl
  refine ⟨hfits, (totalPeers_checked_sum [1, 0, 2]).2 3 hfits 8080, ?_⟩
  rw [(totalPeers_checked_sum [4294967295, 1]).1]
  rfl

end Provisioner.Topology
