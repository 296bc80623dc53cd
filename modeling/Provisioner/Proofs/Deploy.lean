import Provisioner.Harness.Deploy
import Provisioner.Proofs.Recording
import Provisioner.Proofs.Harness

/-!
# Deploying the harness

On a recording platform, whatever the API server answers, a deployment is the creation in
order of its plan: the namespace when asked for, then the Service, the ConfigMap and the Job
(`performance_recording`). The harness check passes for every image, so it never stops a
deployment. From the run lemmas of creating in order, the requests sent are a prefix of the
plan, the deployment succeeds exactly when every answer accepts, and a failure names the first
refused object; the objects that reach the server fit together as the check demands.
-/

namespace Provisioner

def PerformanceConfig.namespacePlan (c : PerformanceConfig) : List Kube.KubeObject :=
  if c.createNamespace then [Kube.namespaceObject c.ns] else []

/-- Everything a deployment may post, in order. -/
def PerformanceConfig.plan (c : PerformanceConfig) : List Kube.KubeObject :=
  c.namespacePlan ++ c.objects

def PerformanceOutcome.ofList (vs : List Kube.CreateOutcome) : PerformanceOutcome :=
  match vs.reverse with
  | j :: m :: s :: _ => ⟨s, m, j⟩
  | _ => ⟨.created, .created, .created⟩

theorem ofList_append (vs : List Kube.CreateOutcome) (s m j : Kube.CreateOutcome) :
    PerformanceOutcome.ofList (vs ++ [s, m, j]) = ⟨s, m, j⟩ := by
  simp [PerformanceOutcome.ofList]

/-! ### A deployment creates its plan in order -/

section
variable (r : Responder) (c : PerformanceConfig)

theorem performance_recording :
    performance (recording r) c = PerformanceOutcome.ofList <$>
      c.plan.mapM (Kube.createOrExists (recording r) [c.span]) := by
  simp only [performance, checkHarness_jobSpec]
  cases hns : c.createNamespace <;>
    simp [Kube.ensureNamespace, hns, PerformanceConfig.plan, PerformanceConfig.namespacePlan,
      PerformanceConfig.objects, liftM, PerformanceOutcome.ofList]

theorem performance_run :
    (performance (recording r) c).run.run [] =
      let run := (c.plan.mapM (Kube.createOrExists (recording r) [c.span])).run.run []
      (run.1.map PerformanceOutcome.ofList, run.2) := by
  rw [performance_recording, ExceptT.run_map, StateT.run_map]
  rfl

theorem plan_shape :
    c.plan.map (fun o => (o.kind.name, o.name, o.ns)) =
      (if c.createNamespace then [("Namespace", c.ns, none)] else []) ++
        [("Service", "notification-service", some c.ns),
          ("ConfigMap", "performance-test-configmap", some c.ns),
          ("Job", "performance-test", some c.ns)] := by
  cases h : c.createNamespace <;>
    simp [PerformanceConfig.plan, PerformanceConfig.namespacePlan, PerformanceConfig.objects, h,
      Kube.namespaceObject, Kube.serviceObject, Kube.configMapObject, Kube.jobObject,
      Kube.Kind.name, notificationServiceName, configMapName, jobName]

theorem performance_accepted (h : ∀ a ∈ answers r [] c.plan, Kube.verdict a ≠ none) :
    ∃ out : PerformanceOutcome,
      (performance (recording r) c).run.run [] = (.ok out, c.plan.map .post) ∧
      (answers r (c.namespacePlan.map .post) c.objects).map Kube.verdict =
        [some out.service, some out.configMap, some out.job] := by
  rw [performance_run, run_mapM_accepted r _ _ _ h]
  have hlen : (answers r (c.namespacePlan.map .post) c.objects).length = 3 := by
    simp [length_answers, PerformanceConfig.objects]
  have hsplit := answers_append r [] c.namespacePlan c.objects
  simp only [List.nil_append] at hsplit
  simp only [PerformanceConfig.plan, hsplit, List.mem_append] at h ⊢
  match hA : answers r (c.namespacePlan.map .post) c.objects, hlen with
  | [a1, a2, a3], _ =>
    rw [hA] at h
    obtain ⟨v1, h1⟩ := Option.ne_none_iff_exists'.1 (h a1 (by simp))
    obtain ⟨v2, h2⟩ := Option.ne_none_iff_exists'.1 (h a2 (by simp))
    obtain ⟨v3, h3⟩ := Option.ne_none_iff_exists'.1 (h a3 (by simp))
    refine ⟨⟨v1, v2, v3⟩, ?_, by simp [h1, h2, h3]⟩
    simp [h1, h2, h3, Except.map, ofList_append]

theorem performance_refused {pre rest : List (Except ClientError Unit)}
    {a : Except ClientError Unit} (h : answers r [] c.plan = pre ++ a :: rest)
    (hpre : ∀ x ∈ pre, Kube.verdict x ≠ none) (ha : Kube.verdict a = none) :
    ∃ o e, c.plan[pre.length]? = some o ∧ a = .error e ∧
      (performance (recording r) c).run.run [] =
        (.error (.create o.kind.name o.nsText o.name e),
          (c.plan.take (pre.length + 1)).map .post) := by
  obtain ⟨o, e, ho, rfl, hrun⟩ := run_mapM_refused r [c.span] c.plan [] h hpre ha
  refine ⟨o, e, ho, rfl, ?_⟩
  rw [performance_run, hrun]
  rfl

theorem performance_log :
    ∃ k, ((performance (recording r) c).run.run []).2 = (c.plan.take k).map .post := by
  rcases accepted_or_first_refused (answers r [] c.plan) with h | ⟨pre, a, post, h, hpre, ha⟩
  · obtain ⟨out, hrun, -⟩ := performance_accepted r c h
    exact ⟨c.plan.length, by rw [hrun, List.take_length]⟩
  · obtain ⟨o, e, -, -, hrun⟩ := performance_refused r c h hpre ha
    exact ⟨pre.length + 1, by rw [hrun]⟩

theorem performance_error {f : Failure}
    (hf : ((performance (recording r) c).run.run []).1 = .error f) :
    ∃ o e, f = Kube.createFailure o e := by
  rcases accepted_or_first_refused (answers r [] c.plan) with h | ⟨pre, a, post, h, hpre, ha⟩
  · obtain ⟨out, hrun, -⟩ := performance_accepted r c h
    rw [hrun] at hf
    cases hf
  · obtain ⟨o, e, -, -, hrun⟩ := performance_refused r c h hpre ha
    rw [hrun] at hf
    cases hf
    exact ⟨o, e, rfl⟩

end

/-- The requests a deployment sends are a prefix of its plan, the namespace first when asked
for and then the Service, the ConfigMap and the Job in the namespace of the deployment. Every
script of answers either accepts all of them or refuses a first one. Each is sent only when
every earlier one was accepted, as created or as already there; the deployment reports each
object's verdict when all are accepted, and otherwise fails naming the first refused object,
with exit code 4, and sends nothing after it. -/
theorem performance_posts_in_order (r : Responder) (c : PerformanceConfig) :
    c.plan.map (fun o => (o.kind.name, o.name, o.ns)) =
      (if c.createNamespace then [("Namespace", c.ns, none)] else []) ++
        [("Service", "notification-service", some c.ns),
          ("ConfigMap", "performance-test-configmap", some c.ns),
          ("Job", "performance-test", some c.ns)] ∧
    ((∀ a ∈ answers r [] c.plan, Kube.verdict a ≠ none) ∨
      ∃ pre a rest, answers r [] c.plan = pre ++ a :: rest ∧
        (∀ x ∈ pre, Kube.verdict x ≠ none) ∧ Kube.verdict a = none) ∧
    ((∀ a ∈ answers r [] c.plan, Kube.verdict a ≠ none) →
      ∃ out : PerformanceOutcome,
        (performance (recording r) c).run.run [] = (.ok out, c.plan.map .post) ∧
        (answers r (c.namespacePlan.map .post) c.objects).map Kube.verdict =
          [some out.service, some out.configMap, some out.job]) ∧
    (∀ pre a rest, answers r [] c.plan = pre ++ a :: rest → (∀ x ∈ pre, Kube.verdict x ≠ none) →
      Kube.verdict a = none →
      ∃ o e, c.plan[pre.length]? = some o ∧ a = .error e ∧
        (performance (recording r) c).run.run [] =
          (.error (.create o.kind.name o.nsText o.name e),
            (c.plan.take (pre.length + 1)).map .post) ∧
        (Failure.create o.kind.name o.nsText o.name e).exitCode = 4) := by
  refine ⟨plan_shape c, accepted_or_first_refused _, performance_accepted r c,
    fun pre a rest h hpre ha => ?_⟩
  obtain ⟨o, e, ho, he, hrun⟩ := performance_refused r c h hpre ha
  exact ⟨o, e, ho, he, hrun, rfl⟩

def acceptingServer : Responder :=
  ⟨fun _ _ => .ok (), fun _ _ _ => .error (.chartResolution "" ""),
    fun _ _ => .error (.chartLoad "" ""), fun _ _ _ => .error (.install "" "" "")⟩

theorem acceptingServer_accepts (log : List Request) (os : List Kube.KubeObject) :
    ∀ a ∈ answers acceptingServer log os, Kube.verdict a ≠ none := by
  induction os generalizing log with
  | nil => simp [answers]
  | cons o os ih => simpa [answers, acceptingServer, Kube.verdict] using ih _

theorem performance_posts_in_order_accepting :
    ∃ out : PerformanceOutcome,
      (performance (recording acceptingServer) {}).run.run [] =
        (.ok out, PerformanceConfig.plan {} |>.map .post) ∧
      (answers acceptingServer ((PerformanceConfig.namespacePlan {}).map .post)
        (PerformanceConfig.objects {})).map Kube.verdict =
          [some out.service, some out.configMap, some out.job] :=
  (performance_posts_in_order acceptingServer {}).2.2.1 (acceptingServer_accepts [] _)

/-! ### The objects that reach the server fit together -/

theorem field?_body_of_rest {o : Kube.KubeObject} {key : String} {v : Json}
    (h : o.rest = [(key, v)]) (hv : v ≠ .null) : o.body.field? key = some v := by
  cases v <;> simp_all [Kube.KubeObject.body, Json.field?, Json.get?]

theorem mem_plan {c : PerformanceConfig} {o : Kube.KubeObject} :
    o ∈ c.plan ↔ (c.createNamespace ∧ o = Kube.namespaceObject c.ns) ∨
      o = Kube.serviceObject c.ns notificationServiceName serviceSpec projectLabels ∨
      o = Kube.configMapObject c.ns configMapName c.harness.data projectLabels ∨
      o = Kube.jobObject c.ns jobName (jobSpec c.image) harnessLabels := by
  cases h : c.createNamespace <;>
    simp [PerformanceConfig.plan, PerformanceConfig.namespacePlan, PerformanceConfig.objects, h]

def PerformanceConfig.objectOfKind (c : PerformanceConfig) : Kube.Kind → Kube.KubeObject
  | .ns => Kube.namespaceObject c.ns
  | .service => Kube.serviceObject c.ns notificationServiceName serviceSpec projectLabels
  | .configMap => Kube.configMapObject c.ns configMapName c.harness.data projectLabels
  | .job => Kube.jobObject c.ns jobName (jobSpec c.image) harnessLabels

theorem eq_objectOfKind {c : PerformanceConfig} {o : Kube.KubeObject} (h : o ∈ c.plan) :
    o = c.objectOfKind o.kind := by
  rcases mem_plan.1 h with ⟨-, rfl⟩ | rfl | rfl | rfl <;> rfl

theorem eq_of_mem_plan {c : PerformanceConfig} {o o' : Kube.KubeObject} (h : o ∈ c.plan)
    (h' : o' ∈ c.plan) (hk : o.kind = o'.kind) : o = o' :=
  calc o = c.objectOfKind o.kind := eq_objectOfKind h
    _ = c.objectOfKind o'.kind := by rw [hk]
    _ = o' := (eq_objectOfKind h').symm

theorem take_plan_of_job {c : PerformanceConfig} {k : Nat} {j : Kube.KubeObject}
    (h : j ∈ c.plan.take k) (hj : j.kind = .job) : c.plan.take k = c.plan := by
  apply List.take_of_length_le
  refine Nat.le_of_not_lt fun hk => ?_
  have hsplit : c.plan = (c.namespacePlan ++ (c.objects.take 2)) ++ (c.objects.drop 2) := by
    simp [PerformanceConfig.plan]
  have hlen : k ≤ (c.namespacePlan ++ c.objects.take 2).length := by
    simp [PerformanceConfig.plan, PerformanceConfig.objects] at hk ⊢
    omega
  rw [hsplit, List.take_append_of_le_length hlen] at h
  have hkinds : ∀ o ∈ c.namespacePlan ++ c.objects.take 2, o.kind ≠ .job := by
    unfold PerformanceConfig.namespacePlan
    split <;> simp [PerformanceConfig.objects, Kube.namespaceObject, Kube.serviceObject,
      Kube.configMapObject]
  exact hkinds j (List.mem_of_mem_take h) hj

section
variable (r : Responder) (c : PerformanceConfig)

theorem mem_take_of_posted {o : Kube.KubeObject}
    (h : Request.post o ∈ ((performance (recording r) c).run.run []).2) :
    ∃ k, o ∈ c.plan.take k ∧ ((performance (recording r) c).run.run []).2 =
      (c.plan.take k).map .post := by
  obtain ⟨k, hlog⟩ := performance_log r c
  rw [hlog] at h
  obtain ⟨o', ho', he⟩ := List.mem_map.1 h
  cases he
  exact ⟨k, ho', hlog⟩

theorem eq_of_posted {o o' : Kube.KubeObject}
    (h : Request.post o ∈ ((performance (recording r) c).run.run []).2) (h' : o' ∈ c.plan)
    (hk : o.kind = o'.kind) : o = o' := by
  obtain ⟨k, ho, -⟩ := mem_take_of_posted r c h
  exact eq_of_mem_plan (List.mem_of_mem_take ho) h' hk

theorem posted_plan_of_job {j : Kube.KubeObject}
    (h : Request.post j ∈ ((performance (recording r) c).run.run []).2) (hj : j.kind = .job) :
    ((performance (recording r) c).run.run []).2 = c.plan.map .post := by
  obtain ⟨k, hmem, hlog⟩ := mem_take_of_posted r c h
  rw [hlog, take_plan_of_job hmem hj]

end

/-- The harness check passes for every image, so a deployment never fails as an invalid
harness. Of the objects it sends, the Service selects the Job's pods by a non-empty selector,
the Job's one container reads the ConfigMap that was sent before it, and that ConfigMap holds
the harness parameters. -/
theorem performance_harness_consistent (ic : ImageConfig) (r : Responder)
    (c : PerformanceConfig) :
    checkHarness serviceSpec (jobSpec ic) = .ok () ∧
    let run := (performance (recording r) c).run.run []
    (∀ f, run.1 = .error f → (∀ d, f ≠ .invalidHarness d) ∧ f.exitCode = exitTransaction) ∧
    (∀ s j, Request.post s ∈ run.2 → Request.post j ∈ run.2 → s.kind = .service →
      j.kind = .job → ∃ sspec jspec, s.body.field? "spec" = some sspec ∧
        j.body.field? "spec" = some jspec ∧ Spec.selector sspec ≠ ∅ ∧
        ∀ k v, (k, v) ∈ Spec.selector sspec → (Spec.podLabels jspec).get? k = some v) ∧
    (∀ j, Request.post j ∈ run.2 → j.kind = .job → ∃ m jspec k, Request.post m ∈ run.2 ∧
      m.kind = .configMap ∧ j.body.field? "spec" = some jspec ∧
      Spec.containers jspec = [k] ∧ Spec.configMapsRead k = [m.name]) ∧
    (∀ m, Request.post m ∈ run.2 → m.kind = .configMap →
      m.body.field? "data" = some (Json.ofStrings c.harness.data.entries)) := by
  have hcheck := checkHarness_eq_ok.1 (checkHarness_jobSpec c.image)
  rw [selector_serviceSpec, podLabels_jobSpec] at hcheck
  obtain ⟨container, hcs, hread⟩ := containers_jobSpec c.image
  have hservice : Kube.serviceObject c.ns notificationServiceName serviceSpec projectLabels ∈
      c.plan := by simp [PerformanceConfig.plan, PerformanceConfig.objects]
  have hconfig : Kube.configMapObject c.ns configMapName c.harness.data projectLabels ∈
      c.plan := by simp [PerformanceConfig.plan, PerformanceConfig.objects]
  have hjob : Kube.jobObject c.ns jobName (jobSpec c.image) harnessLabels ∈ c.plan := by
    simp [PerformanceConfig.plan, PerformanceConfig.objects]
  refine ⟨checkHarness_jobSpec ic, ?_, ?_, ?_, ?_⟩
  · intro f hf
    obtain ⟨o, e, rfl⟩ := performance_error r c hf
    exact ⟨fun d => nofun, rfl⟩
  · intro s j hs hj hks hkj
    obtain rfl := eq_of_posted r c hs hservice hks
    obtain rfl := eq_of_posted r c hj hjob hkj
    refine ⟨_, _, field?_body_of_rest rfl (by simp [serviceSpec]),
      field?_body_of_rest rfl (by simp [jobSpec]), ?_⟩
    rw [selector_serviceSpec, podLabels_jobSpec]
    exact ⟨hcheck.1, hcheck.2.1⟩
  · intro j hj hkj
    have hall := posted_plan_of_job r c hj hkj
    obtain rfl := eq_of_posted r c hj hjob hkj
    refine ⟨Kube.configMapObject c.ns configMapName c.harness.data projectLabels, _, container,
      ?_, rfl, field?_body_of_rest rfl (by simp [jobSpec]), hcs, hread⟩
    rw [hall]
    exact List.mem_map_of_mem hconfig
  · intro m hm hkm
    obtain rfl := eq_of_posted r c hm hconfig hkm
    exact field?_body_of_rest rfl (by simp [Json.ofStrings])

theorem performance_harness_consistent_accepting :
    ∃ m jspec k, Request.post m ∈ ((performance (recording acceptingServer) {}).run.run []).2 ∧
      m.kind = .configMap ∧
      (Kube.jobObject "default" jobName (jobSpec {}) harnessLabels).body.field? "spec" =
        some jspec ∧ Spec.containers jspec = [k] ∧ Spec.configMapsRead k = [m.name] := by
  obtain ⟨out, hrun, -⟩ := performance_accepted acceptingServer {} (acceptingServer_accepts [] _)
  refine (performance_harness_consistent {} acceptingServer {}).2.2.2.1 _ ?_ rfl
  rw [hrun]
  exact List.mem_map_of_mem (by simp [PerformanceConfig.plan, PerformanceConfig.objects])

end Provisioner
