import Mathlib
import Provisioner.Proofs.Labels
import Provisioner.Proofs.Deploy
import Provisioner.Proofs.Monitoring

/-!
# Every object carries the managed mark

An object's labels are the managed mark extended by the caller's labels, so the caller's value
of `managed-by` wins (`mem_managedLabels_extend`). No workflow sets `managed-by`, so every
object a deployment or the monitoring setup posts is marked as managed.
-/

namespace Provisioner

theorem managedLabels_get? (k : String) :
    managedLabels.get? k = if k = "managed-by" then some "ucac" else none :=
  lookup_pair_cons _ _ _ k

theorem mem_managedLabels_extend (labels : LabelMap) (k v : String) :
    (k, v) ∈ managedLabels.extend labels.entries ↔
      (k, v) ∈ labels ∨ (k = "managed-by" ∧ v = "ucac" ∧ labels.get? "managed-by" = none) := by
  rw [LabelMap.mem_iff_get?, LabelMap.get?_extend, LabelMap.mem_iff_get?]
  cases hk : labels.get? k with
  | some w =>
    simp only [Option.some_or, Option.some.injEq]
    refine ⟨.inl, fun h => h.elim id fun ⟨hkm, _, hnone⟩ => ?_⟩
    rw [← hkm, hk] at hnone
    cases hnone
  | none =>
    by_cases hkm : k = "managed-by"
    · subst hkm
      simp [managedLabels_get?, hk, eq_comm]
    · simp [managedLabels_get?, hkm]

namespace Kube.KubeObject

/-- An object carries the caller's labels, and the managed mark when the caller left
`managed-by` unset. -/
def MarkedFrom (o : KubeObject) (labels : LabelMap) : Prop :=
  ∃ marked, o.labels = some marked ∧ (∀ k v, (k, v) ∈ labels → (k, v) ∈ marked) ∧
    (labels.get? "managed-by" = none → ("managed-by", "ucac") ∈ marked)

def Managed (o : KubeObject) : Prop :=
  ∃ marked, o.labels = some marked ∧ ("managed-by", "ucac") ∈ marked

theorem MarkedFrom.managed {o : KubeObject} {labels : LabelMap} (h : o.MarkedFrom labels)
    (hm : labels.get? "managed-by" = none) : o.Managed := by
  obtain ⟨marked, ho, -, hmark⟩ := h
  exact ⟨marked, ho, hmark hm⟩

end Kube.KubeObject

theorem markedFrom_of_labels {o : Kube.KubeObject} {labels : LabelMap}
    (ho : o.labels = managedWith labels) : o.MarkedFrom labels :=
  ⟨_, ho, fun k v hkv => (mem_managedLabels_extend labels k v).2 (.inl hkv),
    fun hm => (mem_managedLabels_extend labels _ _).2 (.inr ⟨rfl, rfl, hm⟩)⟩

theorem managed_namespaceObject (name : String) : (Kube.namespaceObject name).Managed :=
  (markedFrom_of_labels rfl).managed rfl

theorem managed_of_mem_plan {c : PerformanceConfig} {o : Kube.KubeObject} (h : o ∈ c.plan) :
    o.Managed := by
  rcases mem_plan.1 h with ⟨-, rfl⟩ | rfl | rfl | rfl
  · exact managed_namespaceObject c.ns
  · exact (markedFrom_of_labels rfl).managed rfl
  · exact (markedFrom_of_labels rfl).managed rfl
  · exact (markedFrom_of_labels rfl).managed rfl

/-! ### What the monitoring setup posts -/

theorem post_not_mem_installStep (resp : Responder) (log : List Request) (r : ReleaseRequest)
    (o : Kube.KubeObject) : Request.post o ∉ (installStep resp log r).2 := by
  unfold installStep
  split
  · simp
  · split <;> simp

theorem post_not_mem_installAllStep (resp : Responder) (log : List Request)
    (rs : List ReleaseRequest) (o : Kube.KubeObject) :
    Request.post o ∉ (installAllStep resp log rs).2 := by
  induction rs generalizing log with
  | nil => simp [installAllStep]
  | cons r rs ih =>
    simp only [installAllStep]
    split
    · exact post_not_mem_installStep resp log r o
    · simp only [List.mem_append, not_or]
      exact ⟨post_not_mem_installStep resp log r o, ih _⟩

theorem eq_namespaceObject_of_init_posts {resp : Responder} {c : InitConfig}
    {o : Kube.KubeObject} (h : Request.post o ∈ ((init (recording resp) c).run.run []).2) :
    o = Kube.namespaceObject c.ns := by
  rw [init_run, ensureNamespace_run] at h
  cases hc : c.createNamespace with
  | false =>
    simp only [hc, Bool.false_eq_true, if_false, List.nil_append] at h
    exact absurd h (post_not_mem_installAllStep _ _ _ _)
  | true =>
    simp only [hc, if_true, List.nil_append] at h
    split at h
    next log heq =>
      obtain ⟨-, rfl⟩ := Prod.mk.inj heq
      simpa using h
    next log heq =>
      obtain ⟨-, rfl⟩ := Prod.mk.inj heq
      simp only [List.mem_append, List.mem_singleton, Request.post.injEq] at h
      exact h.resolve_right (post_not_mem_installAllStep _ _ _ _)

/-- The managed mark with the caller's labels is always a label map: the caller's entries, and
`managed-by=ucac` exactly when the caller has no `managed-by`. Every Namespace, Service,
ConfigMap and Job built for a caller carries the caller's labels and, unless the caller set
`managed-by`, the mark; so every object a deployment or the monitoring setup posts, whatever
the server answers, is marked as managed. -/
theorem managed_objects_keep_caller_labels :
    (∀ labels : LabelMap, ∃ marked, managedWith labels = some marked ∧ ∀ k v, (k, v) ∈ marked ↔
      (k, v) ∈ labels ∨ (k = "managed-by" ∧ v = "ucac" ∧ labels.get? "managed-by" = none)) ∧
    (∀ (labels : LabelMap) ns name spec data,
      (Kube.namespaceObject name).MarkedFrom ∅ ∧
      (Kube.serviceObject ns name spec labels).MarkedFrom labels ∧
      (Kube.configMapObject ns name data labels).MarkedFrom labels ∧
      (Kube.jobObject ns name spec labels).MarkedFrom labels) ∧
    (∀ (resp : Responder) (c : PerformanceConfig) o,
      Request.post o ∈ ((performance (recording resp) c).run.run []).2 → o.Managed) ∧
    (∀ (resp : Responder) (c : InitConfig) o,
      Request.post o ∈ ((init (recording resp) c).run.run []).2 → o.Managed) := by
  refine ⟨fun labels => ⟨_, rfl, mem_managedLabels_extend labels⟩,
    fun labels ns name spec data => ⟨markedFrom_of_labels rfl, markedFrom_of_labels rfl,
      markedFrom_of_labels rfl, markedFrom_of_labels rfl⟩,
    fun resp c o ho => ?_, fun resp c o ho => ?_⟩
  · obtain ⟨k, hk, -⟩ := mem_take_of_posted resp c ho
    exact managed_of_mem_plan (List.mem_of_mem_take hk)
  · rw [eq_namespaceObject_of_init_posts ho]
    exact managed_namespaceObject c.ns

def ownMark : LabelMap := LabelMap.ofList [("managed-by", "someone"), ("tier", "db")]

theorem managed_objects_keep_caller_labels_ownMark :
    (∃ marked, (Kube.serviceObject "default" "svc" serviceSpec projectLabels).labels =
      some marked ∧ ("project", "ucac") ∈ marked ∧ ("managed-by", "ucac") ∈ marked) ∧
    ∃ marked, (Kube.serviceObject "default" "svc" serviceSpec ownMark).labels = some marked ∧
      ("managed-by", "someone") ∈ marked ∧ ("tier", "db") ∈ marked ∧
      ("managed-by", "ucac") ∉ marked := by
  obtain ⟨project, hp, hpmem⟩ := managed_objects_keep_caller_labels.1 projectLabels
  obtain ⟨own, ho, homem⟩ := managed_objects_keep_caller_labels.1 ownMark
  refine ⟨⟨project, hp, (hpmem _ _).2 (.inl (by decide)), (hpmem _ _).2 (.inr ?_)⟩,
    own, ho, (homem _ _).2 (.inl (by decide)), (homem _ _).2 (.inl (by decide)), fun h => ?_⟩
  · exact ⟨rfl, rfl, by decide⟩
  · rcases (homem _ _).1 h with h | ⟨-, -, hnone⟩
    · exact absurd h (by decide)
    · exact absurd hnone (by decide)

example : managedWith projectLabels =
    some (LabelMap.ofList [("managed-by", "ucac"), ("project", "ucac")]) := by
  decide

end Provisioner
