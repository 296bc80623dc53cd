import Mathlib
import Provisioner.Proofs.Install

/-!
# Installing the monitoring stack

The stack is installed in stages, the namespace, the collector, then the dashboard, each only
after every earlier one succeeded (`installAll_run`, `init_run`). The result is both releases or
the first failure, after which nothing is asked.
-/

namespace Provisioner

/-- What installing `rs` in order after the calls `log` sends to the package manager, and what
it answers: every installation runs from the calls before it, and the first that fails ends
the run with its error. -/
def installAllStep (resp : Responder) (log : List Request) :
    List ReleaseRequest → Except Failure (List Release) × List Request
  | [] => (.ok [], [])
  | r :: rs =>
    let step := installStep resp log r
    match step.1 with
    | .error e => (.error (.release e), step.2)
    | .ok release =>
      let rest := installAllStep resp (log ++ step.2) rs
      (rest.1.map (release :: ·), step.2 ++ rest.2)

def datasourceUrls (values : Json) : List Json :=
  match ((values.field? "datasources").bind (·.field? "datasources.yaml")).bind
      (·.field? "datasources") with
  | some (.arr sources) => sources.filterMap (·.field? "url")
  | _ => []

/-! ### Runs on a recording platform -/

section
variable (resp : Responder) (scope : Scope)

theorem adapt_bind_run {ε ε' α β : Type} (f : ε → ε') (x : ExceptT ε Recorded α)
    (g : α → ExceptT ε' Recorded β) (log : List Request) :
    (x.adapt f >>= g).run.run log =
      match x.run.run log with
      | (.ok a, log') => (g a).run.run log'
      | (.error e, log') => (.error (f e), log') := by
  rw [ExceptT.run_bind, ExceptT.run_adapt, StateT.run_bind, StateT.run_map]
  rcases x.run.run log with ⟨a | a, log'⟩ <;> rfl

theorem installAll_run (rs : List ReleaseRequest) (log : List Request) :
    (installAll (recording resp) scope rs).run.run log =
      ((installAllStep resp log rs).1, log ++ (installAllStep resp log rs).2) := by
  induction rs generalizing log with
  | nil => simp [installAll, installAllStep]; rfl
  | cons r rs ih =>
    rw [installAll, adapt_bind_run, installRelease_run]
    cases hs : (installStep resp log r).1 with
    | error e => simp [installAllStep, hs]
    | ok release =>
      simp only [installAllStep, hs, emit_bind_run, bind_pure_comp, ExceptT.run_map,
        StateT.run_map, ih, List.append_assoc]
      rfl

theorem ensureNamespace_run (name : String) (create : Bool) (log : List Request) :
    (Kube.ensureNamespace (recording resp) scope name create).run.run log =
      if create then
        ((Kube.createResult (Kube.namespaceObject name)
          (resp.post log (Kube.namespaceObject name))).map some,
          log ++ [Request.post (Kube.namespaceObject name)])
      else (.ok none, log) := by
  cases create with
  | false => rfl
  | true =>
    simp only [Kube.ensureNamespace, if_true, ExceptT.run_map, StateT.run_map, createOrExists_run]
    rfl

end

theorem init_run (resp : Responder) (c : InitConfig) :
    (init (recording resp) c).run.run [] =
      match (Kube.ensureNamespace (recording resp) [c.span] c.ns c.createNamespace).run.run [] with
      | (.error f, log) => (.error f, log)
      | (.ok _, log) => ((installAllStep resp log c.requests).1,
          log ++ (installAllStep resp log c.requests).2) := by
  rw [init, ExceptT.run_bind, StateT.run_bind]
  rcases (Kube.ensureNamespace (recording resp) [c.span] c.ns c.createNamespace).run.run []
    with ⟨f | v, log⟩
  · rfl
  · exact installAll_run resp [c.span] c.requests log

theorem datasourceUrls_grafanaRequest (ns adminPassword scrapeInterval : String) :
    datasourceUrls (grafanaRequest ns adminPassword).values =
      [.str ("http://" ++ (prometheusRequest ns scrapeInterval).release ++ "-server")] := by
  simp [datasourceUrls, grafanaRequest, prometheusRequest, requestOf, prometheusServerUrl,
    Json.field?, Json.get?]

theorem exitCode_of_not_invalid {f : Failure} (hf : ∀ d, f ≠ .invalidHarness d) :
    (f.exitCode = exitResolution ↔ ∃ e, f = .release e ∧ e.isResolution = true) ∧
      (f.exitCode ≠ exitResolution → f.exitCode = exitTransaction) := by
  cases f with
  | release e => cases he : e.isResolution <;> simp [Failure.exitCode, he, exitResolution,
      exitTransaction]
  | invalidHarness d => exact absurd rfl (hf d)
  | _ => simp [Failure.exitCode, exitResolution, exitTransaction]

theorem installAllStep_error {resp : Responder} {log : List Request} {rs : List ReleaseRequest}
    {f : Failure} (h : (installAllStep resp log rs).1 = .error f) : ∃ e, f = .release e := by
  induction rs generalizing log with
  | nil => simp [installAllStep] at h
  | cons r rs ih =>
    cases hs : (installStep resp log r).1 with
    | error e =>
      simp only [installAllStep, hs] at h
      cases h
      exact ⟨e, rfl⟩
    | ok release =>
      simp only [installAllStep, hs] at h
      cases hr : (installAllStep resp (log ++ (installStep resp log r).2) rs).1 with
      | error f' =>
        rw [hr] at h
        cases h
        exact ih hr
      | ok releases =>
        rw [hr] at h
        cases h

theorem installAllStep_pair (resp : Responder) (log : List Request) (r r' : ReleaseRequest) :
    let first := installStep resp log r
    let second := installStep resp (log ++ first.2) r'
    (∀ e, first.1 = .error e →
      installAllStep resp log [r, r'] = (.error (.release e), first.2)) ∧
    (∀ release e, first.1 = .ok release → second.1 = .error e →
      installAllStep resp log [r, r'] = (.error (.release e), first.2 ++ second.2)) ∧
    (∀ release release', first.1 = .ok release → second.1 = .ok release' →
      installAllStep resp log [r, r'] = (.ok [release, release'], first.2 ++ second.2)) := by
  refine ⟨fun e h1 => ?_, fun release e h1 h2 => ?_, fun release release' h1 h2 => ?_⟩
  · simp [installAllStep, h1]
  · simp [installAllStep, h1, h2, Except.map]
  · simp [installAllStep, h1, h2, Except.map]

section
variable (resp : Responder) (c : InitConfig)

theorem init_namespace_refused (hc : c.createNamespace = true)
    (hv : Kube.verdict (resp.post [] (Kube.namespaceObject c.ns)) = none) :
    ∃ e, resp.post [] (Kube.namespaceObject c.ns) = .error e ∧
      (init (recording resp) c).run.run [] =
        (.error (Kube.createFailure (Kube.namespaceObject c.ns) e),
          [Request.post (Kube.namespaceObject c.ns)]) := by
  obtain ⟨e, he, hres⟩ := Kube.createResult_of_refused (o := Kube.namespaceObject c.ns) hv
  refine ⟨e, he, ?_⟩
  rw [init_run, ensureNamespace_run, if_pos hc, hres]
  rfl

theorem init_namespace_passed
    (hv : c.createNamespace = true →
      Kube.verdict (resp.post [] (Kube.namespaceObject c.ns)) ≠ none) :
    let nsCalls : List Request :=
      if c.createNamespace then [Request.post (Kube.namespaceObject c.ns)] else []
    (init (recording resp) c).run.run [] =
      ((installAllStep resp nsCalls c.requests).1,
        nsCalls ++ (installAllStep resp nsCalls c.requests).2) := by
  rw [init_run, ensureNamespace_run]
  cases hc : c.createNamespace with
  | false => rfl
  | true =>
    obtain ⟨v, hv⟩ := Option.ne_none_iff_exists'.1 (hv hc)
    simp only [if_true, Kube.createResult_eq_ok.2 hv]
    rfl

theorem init_error {f : Failure} (h : ((init (recording resp) c).run.run []).1 = .error f) :
    ∀ d, f ≠ .invalidHarness d := by
  by_cases hv : c.createNamespace = true ∧
      Kube.verdict (resp.post [] (Kube.namespaceObject c.ns)) = none
  · obtain ⟨e, -, hrun⟩ := init_namespace_refused resp c hv.1 hv.2
    rw [hrun] at h
    cases h
    exact fun d => nofun
  · rw [init_namespace_passed resp c fun hc => fun hn => hv ⟨hc, hn⟩] at h
    obtain ⟨e, rfl⟩ := installAllStep_error h
    exact fun d => nofun

end

/-- The monitoring stack is installed in stages. The namespace is created first when asked
for, an existing one counting as success; a namespace the server refuses ends the workflow
before the package manager is asked anything. Then the collector release is installed and,
only when that succeeded, the dashboard release, both into the configured namespace, the
dashboard reading the collector's server. The answer is both releases in this order when
every stage succeeds, and otherwise the first failure, after which nothing is asked: a
collector installed before the dashboard failed is left in place. A failure exits with 3
exactly when a chart could not be resolved and with 4 otherwise. -/
theorem init_installs_in_stages (resp : Responder) (c : InitConfig) :
    let collector := prometheusRequest c.ns c.scrapeInterval
    let dashboard := grafanaRequest c.ns c.adminPassword
    let nsObject := Kube.namespaceObject c.ns
    let nsCalls : List Request := if c.createNamespace then [Request.post nsObject] else []
    let first := installStep resp nsCalls collector
    let second := installStep resp (nsCalls ++ first.2) dashboard
    let run := (init (recording resp) c).run.run []
    c.requests = [collector, dashboard] ∧ collector.ns = c.ns ∧ dashboard.ns = c.ns ∧
    datasourceUrls dashboard.values = [.str ("http://" ++ collector.release ++ "-server")] ∧
    (c.createNamespace = true → Kube.verdict (resp.post [] nsObject) = none →
      ∃ e, resp.post [] nsObject = .error e ∧
        run = (.error (Kube.createFailure nsObject e), nsCalls)) ∧
    ((c.createNamespace = true → Kube.verdict (resp.post [] nsObject) ≠ none) →
      (∀ e, first.1 = .error e → run = (.error (.release e), nsCalls ++ first.2)) ∧
      (∀ release e, first.1 = .ok release → second.1 = .error e →
        (∃ chart, Request.install chart collector ∈ first.2) ∧
        run = (.error (.release e), nsCalls ++ first.2 ++ second.2)) ∧
      (∀ release release', first.1 = .ok release → second.1 = .ok release' →
        run = (.ok [release, release'], nsCalls ++ first.2 ++ second.2))) ∧
    (∀ f, run.1 = .error f →
      (f.exitCode = exitResolution ↔ ∃ e, f = .release e ∧ e.isResolution = true) ∧
      (f.exitCode ≠ exitResolution → f.exitCode = exitTransaction)) := by
  intro collector dashboard nsObject nsCalls first second run
  refine ⟨rfl, rfl, rfl, datasourceUrls_grafanaRequest _ _ _, fun hc hv => ?_, fun hv => ?_,
    fun f hf => exitCode_of_not_invalid (init_error resp c hf)⟩
  · obtain ⟨e, he, hr⟩ := init_namespace_refused resp c hc hv
    refine ⟨e, he, ?_⟩
    simpa only [nsCalls, hc, if_true] using hr
  have hrun : run = ((installAllStep resp nsCalls [collector, dashboard]).1,
      nsCalls ++ (installAllStep resp nsCalls [collector, dashboard]).2) :=
    init_namespace_passed resp c hv
  obtain ⟨hfirst, hsecond, hboth⟩ := installAllStep_pair resp nsCalls collector dashboard
  refine ⟨fun e h1 => ?_, fun release e h1 h2 => ⟨?_, ?_⟩, fun release release' h1 h2 => ?_⟩
  · rw [hrun, hfirst e h1]
  · obtain ⟨path, chart, hcalls⟩ := installStep_ok h1
    exact ⟨chart, by simp [first, hcalls]⟩
  · rw [hrun, hsecond release e h1 h2, List.append_assoc]
  · rw [hrun, hboth release release' h1 h2, List.append_assoc]

theorem init_installs_in_stages_shelf :
    ∃ calls, (init (recording chartShelf) { createNamespace := true }).run.run [] =
      (.ok [⟨"prometheus", "monitoring", 1, "deployed"⟩,
        ⟨"grafana", "monitoring", 1, "deployed"⟩], calls) :=
  ⟨_, ((init_installs_in_stages chartShelf { createNamespace := true }).2.2.2.2.2.1
    (fun _ => by simp [Kube.verdict, chartShelf])).2.2 _ _ rfl rfl⟩

end Provisioner
