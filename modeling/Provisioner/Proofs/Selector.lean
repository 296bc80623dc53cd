import Mathlib
import Provisioner.Proofs.HarnessCheck

/-!
# What a selector finds missing

A selector matches a set of labels when the labels carry each of its entries, that is when it is
a submap of them. `unmatched` names the entries that fail, as `k=v`: exactly the entries whose
key the labels lack or map to another value, in the selector's order, which is ascending UTF-8
byte order of the keys. It is empty exactly when the selector matches, and labels that carry
more can only drop entries from it (`unmatched_sublist`).
-/

namespace Provisioner

theorem LabelMap.Submap.get? {a b : LabelMap} (h : a.Submap b) {k v : String}
    (hk : a.get? k = some v) : b.get? k = some v :=
  h (k, v) (mem_of_lookup hk)

theorem unmatched_eq_nil_iff_submap {selector labels : LabelMap} :
    unmatched selector labels = [] ↔ selector.Submap labels := by
  rw [unmatched_eq_nil]
  exact ⟨fun h e he => h e.1 e.2 he, fun h k v hkv => h (k, v) hkv⟩

theorem unmatched_sublist (selector : LabelMap) {labels labels' : LabelMap}
    (h : labels.Submap labels') :
    (unmatched selector labels').Sublist (unmatched selector labels) := by
  unfold unmatched
  apply List.Sublist.map
  apply List.monotone_filter_right
  intro e he
  simp only [bne_iff_ne, ne_eq] at he ⊢
  exact fun hsmall => he (h.get? hsmall)

/-- The entries `unmatched` names are exactly the selector's entries that the labels do not
carry, each once, in ascending byte order of their keys. It names none exactly when the selector
is a submap of the labels, and labels that carry more make it drop entries. -/
theorem unmatched_exactly_failed (selector labels : LabelMap) :
    (∃ entries : List (String × String),
      unmatched selector labels = entries.map (fun e => e.1 ++ "=" ++ e.2) ∧
      (∀ k v, (k, v) ∈ entries ↔ (k, v) ∈ selector ∧ labels.get? k ≠ some v) ∧
      entries.Pairwise (fun a b => keyBytes a.1 < keyBytes b.1)) ∧
    (unmatched selector labels = [] ↔ selector.Submap labels) ∧
    ∀ labels', labels.Submap labels' →
      (unmatched selector labels').Sublist (unmatched selector labels) := by
  obtain ⟨entries, hu, hmem, hasc⟩ := unmatched_entries selector labels
  exact ⟨⟨entries, hu, hmem, ascending_iff_keyBytes.1 hasc⟩,
    unmatched_eq_nil_iff_submap, fun _ h => unmatched_sublist selector h⟩

def tierSelector : LabelMap :=
  LabelMap.ofList [("tier", "db"), ("app.name", "performanceTest"), ("project", "ucac")]

theorem unmatched_exactly_failed_tier :
    unmatched tierSelector projectLabels = ["app.name=performanceTest", "tier=db"] ∧
    ∃ entries : List (String × String),
      unmatched tierSelector projectLabels = entries.map (fun e => e.1 ++ "=" ++ e.2) ∧
      (∀ k v, (k, v) ∈ entries ↔ (k, v) ∈ tierSelector ∧ projectLabels.get? k ≠ some v) ∧
      entries.Pairwise (fun a b => keyBytes a.1 < keyBytes b.1) :=
  ⟨by decide, (unmatched_exactly_failed tierSelector projectLabels).1⟩

example : unmatched harnessLabels harnessLabels = [] := by decide

example : unmatched projectLabels harnessLabels = ["project=ucac"] := by decide

end Provisioner
