import Provisioner.Harness.Objects
import Provisioner.Proofs.Labels

/-!
# The harness specs fit together

The notification Service selects the harness pods by their label, and the Job's one container
takes its environment from the harness config map. The selector, the pod labels and the
config map reference come from separate builders; here each is read back from the specs as
the harness check reads it, for every image and pull policy, so the check passes.
-/

namespace Provisioner

theorem selector_serviceSpec : Spec.selector serviceSpec = harnessLabels := rfl

theorem podLabels_jobSpec (ic : ImageConfig) : Spec.podLabels (jobSpec ic) = harnessLabels := by
  cases h : ic.pullPolicy <;> simp [Spec.podLabels, jobSpec, h, Json.field?, Json.get?] <;> rfl

theorem containers_jobSpec (ic : ImageConfig) :
    ∃ k, Spec.containers (jobSpec ic) = [k] ∧ Spec.configMapsRead k = [configMapName] := by
  cases h : ic.pullPolicy <;>
    simp [Spec.containers, jobSpec, h, Json.field?, Json.get?, Spec.itemsOf, Spec.configMapsRead]

theorem unmatched_eq_nil {selector labels : LabelMap} :
    unmatched selector labels = [] ↔ ∀ k v, (k, v) ∈ selector → labels.get? k = some v := by
  simp [unmatched, List.filter_eq_nil_iff, LabelMap.mem_def]

/-- What the harness check guarantees: the Service has a selector, the Job's pods carry every
label of it, and some container of the Job reads the harness config map. -/
theorem checkHarness_eq_ok {service job : Json} :
    checkHarness service job = .ok () ↔
      Spec.selector service ≠ ∅ ∧
      (∀ k v, (k, v) ∈ Spec.selector service → (Spec.podLabels job).get? k = some v) ∧
      ∃ c ∈ Spec.containers job, configMapName ∈ Spec.configMapsRead c := by
  simp only [checkHarness, LabelMap.isEmpty_entries_iff]
  by_cases hs : Spec.selector service = ∅
  · simp [hs]
  by_cases hu : unmatched (Spec.selector service) (Spec.podLabels job) = []
  · refine ⟨fun h => ⟨hs, unmatched_eq_nil.1 hu, ?_⟩, fun ⟨_, _, hread⟩ => ?_⟩
    · simpa [hs, hu] using h
    · simpa [hs, hu] using hread
  · have hsub := mt unmatched_eq_nil.2 hu
    simp [hs, hu]
    exact fun h => absurd h hsub

theorem checkHarness_jobSpec (ic : ImageConfig) :
    checkHarness serviceSpec (jobSpec ic) = .ok () := by
  obtain ⟨k, hk, hread⟩ := containers_jobSpec ic
  refine checkHarness_eq_ok.2 ⟨?_, ?_, k, by simp [hk], by simp [hread]⟩
  · rw [selector_serviceSpec]
    decide
  · rw [selector_serviceSpec, podLabels_jobSpec]
    exact fun k v h => (LabelMap.mem_iff_get? _).1 h

end Provisioner
