import Mathlib
import Provisioner.Proofs.Harness
import Provisioner.Proofs.Labels

/-!
# What the harness check decides

The check looks at three things in order: the Service has a selector, the Job's pods carry
every label of it, and a container of the Job reads the harness config map. A part missing
from either spec reads as empty. The check passes exactly when all three hold and otherwise
reports the first that fails; a selector the pods do not carry is reported with exactly the
entries they fail, in ascending UTF-8 byte order of their keys
(`checkHarness_first_failure`).
-/

namespace Provisioner

theorem unmatched_entries (selector labels : LabelMap) :
    ∃ entries : List (String × String),
      unmatched selector labels = entries.map (fun e => e.1 ++ "=" ++ e.2) ∧
      (∀ k v, (k, v) ∈ entries ↔ (k, v) ∈ selector ∧ labels.get? k ≠ some v) ∧
      Ascending entries := by
  refine ⟨selector.entries.filter fun e => labels.get? e.1 != some e.2, rfl, fun k v => ?_,
    List.Pairwise.filter _ selector.ascending⟩
  simp [LabelMap.mem_def]

theorem HarnessFault.message_selectorMismatch (u : List String) :
    (HarnessFault.selectorMismatch u).message = "service notification-service selector " ++
      ",".intercalate u ++ " does not match job performance-test pods" := by
  have service : "service " ++ notificationServiceName ++ " selector " =
      "service notification-service selector " := by decide
  have job : " does not match job " ++ (jobName ++ " pods") =
      " does not match job performance-test pods" := by decide
  show "service " ++ notificationServiceName ++ " selector " ++ ",".intercalate u ++
    " does not match job " ++ jobName ++ " pods" = _
  rw [service, String.append_assoc, String.append_assoc, job]

theorem checkHarness_first_failure (service job : Json) :
    let selector := Spec.selector service
    let labels := Spec.podLabels job
    let matched := ∀ k v, (k, v) ∈ selector → labels.get? k = some v
    let readsConfig := ∃ c ∈ Spec.containers job, configMapName ∈ Spec.configMapsRead c
    (checkHarness service job = .ok () ↔ selector ≠ ∅ ∧ matched ∧ readsConfig) ∧
    (selector = ∅ → checkHarness service job = .error .noSelector) ∧
    (selector ≠ ∅ → ¬matched → ∃ entries : List (String × String),
      checkHarness service job =
        .error (.selectorMismatch (entries.map fun e => e.1 ++ "=" ++ e.2)) ∧
      (∀ k v, (k, v) ∈ entries ↔ (k, v) ∈ selector ∧ labels.get? k ≠ some v) ∧
      entries.Pairwise (fun a b => keyBytes a.1 < keyBytes b.1) ∧ entries ≠ [] ∧
      (HarnessFault.selectorMismatch (entries.map fun e => e.1 ++ "=" ++ e.2)).message =
        "service notification-service selector " ++
          ",".intercalate (entries.map fun e => e.1 ++ "=" ++ e.2) ++
          " does not match job performance-test pods") ∧
    (selector ≠ ∅ → matched → ¬readsConfig →
      checkHarness service job = .error .configMapUnread) := by
  intro selector labels matched readsConfig
  refine ⟨checkHarness_eq_ok, fun hs => ?_, fun hs hm => ?_, fun hs hm hr => ?_⟩
  · simp [checkHarness, selector, hs]
  · obtain ⟨entries, hu, hmem, hsorted⟩ := unmatched_entries selector labels
    have hne : unmatched selector labels ≠ [] := mt unmatched_eq_nil.1 hm
    refine ⟨entries, ?_, hmem, ascending_iff_keyBytes.1 hsorted,
      fun he => hne (by rw [hu, he, List.map_nil]),
      HarnessFault.message_selectorMismatch _⟩
    simp only [checkHarness]
    rw [if_neg (mt LabelMap.isEmpty_entries_iff.1 hs), if_pos (by simpa using hne), ← hu]
  · have hu : unmatched selector labels = [] := unmatched_eq_nil.2 hm
    simp only [checkHarness]
    rw [if_neg (mt LabelMap.isEmpty_entries_iff.1 hs), if_neg (by simpa using hu), if_neg]
    simpa [readsConfig] using hr

def projectSelectingService : Json :=
  .obj [("selector", Json.ofStrings [("app.name", "performanceTest"), ("project", "ucac")])]

theorem checkHarness_first_failure_project :
    ∃ entries : List (String × String),
      checkHarness projectSelectingService (jobSpec {}) =
        .error (.selectorMismatch (entries.map fun e => e.1 ++ "=" ++ e.2)) ∧
      (∀ k v, (k, v) ∈ entries ↔ (k, v) ∈ Spec.selector projectSelectingService ∧
        (Spec.podLabels (jobSpec {})).get? k ≠ some v) ∧
      entries.Pairwise (fun a b => keyBytes a.1 < keyBytes b.1) ∧ entries ≠ [] ∧
      (HarnessFault.selectorMismatch (entries.map fun e => e.1 ++ "=" ++ e.2)).message =
        "service notification-service selector " ++
          ",".intercalate (entries.map fun e => e.1 ++ "=" ++ e.2) ++
          " does not match job performance-test pods" := by
  have hsel : (Spec.selector projectSelectingService).entries =
      [("app.name", "performanceTest"), ("project", "ucac")] := by
    decide
  refine (checkHarness_first_failure projectSelectingService (jobSpec {})).2.2.1
    (by simp [LabelMap.eq_empty_iff, hsel]) fun h => ?_
  have hproject := h "project" "ucac" (by simp [LabelMap.mem_def, hsel])
  rw [podLabels_jobSpec] at hproject
  exact absurd hproject (by decide)

end Provisioner
