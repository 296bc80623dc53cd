import Mathlib
import Provisioner.Helm.Manager
import Provisioner.Release.Install
import Provisioner.Failure

/-!
# Helm on a recording host

`recordingHost` answers every operation from a function of the calls made so far, so a law
proved on it holds however the machine behaves. An install is decided by its one helm run, by
the first stage that failed (`installChart_reports_first_failure`), and every failure of the
package manager names its step (`helm_failures_name_their_step`).
-/

namespace Provisioner

inductive HostCall where
  | removeDirAll (path : String)
  | createDirAll (path : String)
  | readFile (path : String)
  | run (program : String) (args : List String) (input : Option String)
  deriving DecidableEq

/-- How a recording host answers each operation, given the calls before it. -/
structure HostResponder where
  removeDirAll : List HostCall → String → Except OsError Unit
  createDirAll : List HostCall → String → Except OsError Unit
  readFile : List HostCall → String → Except OsError ByteArray
  run : List HostCall → String → List String → Option String → Except OsError ChildRun

abbrev HostLog := StateM (List HostCall)

def recordingHost (r : HostResponder) : Host HostLog where
  removeDirAll p := modifyGet fun log => (r.removeDirAll log p, log ++ [.removeDirAll p])
  createDirAll p := modifyGet fun log => (r.createDirAll log p, log ++ [.createDirAll p])
  readFile p := modifyGet fun log => (r.readFile log p, log ++ [.readFile p])
  run program args input := modifyGet fun log =>
    (r.run log program args input, log ++ [.run program args input])

theorem stateMk_bind_run {σ ε α β : Type} (x : StateM σ (Except ε α))
    (f : α → ExceptT ε (StateM σ) β) (st : σ) :
    (ExceptT.mk x >>= f).run.run st =
      match x.run st with
      | (.ok a, st') => (f a).run.run st'
      | (.error e, st') => (.error e, st') := by
  rw [ExceptT.run_bind, ExceptT.run_mk, StateT.run_bind]
  rcases x.run st with ⟨a | a, st'⟩ <;> rfl

theorem statePure_bind_run {σ ε β : Type} (f : Unit → ExceptT ε (StateM σ) β) (st : σ) :
    (liftM (pure () : StateM σ Unit) >>= f : ExceptT ε (StateM σ) β).run.run st =
      (f ()).run.run st := rfl

theorem installRelease_run_quiet {σ : Type} (p : Platform (StateM σ))
    (hemit : ∀ sc e, p.emit sc e = pure ()) (outer : Scope) (r : ReleaseRequest) (st : σ) :
    (installRelease p outer r).run.run st =
      match (p.packages.locate (outer ++ [installSpan r]) r.repo r.chart).run st with
      | (.error e, st) => (.error e, st)
      | (.ok path, st) =>
        match (p.packages.load (outer ++ [installSpan r]) path).run st with
        | (.error e, st) => (.error e, st)
        | (.ok chart, st) => (p.packages.install (outer ++ [installSpan r]) chart r).run st := by
  simp only [installRelease, stateMk_bind_run, hemit, statePure_bind_run]
  rcases (p.packages.locate (outer ++ [installSpan r]) r.repo r.chart).run st with ⟨_ | path, st⟩
  · rfl
  dsimp only
  rcases (p.packages.load (outer ++ [installSpan r]) path).run st with ⟨_ | chart, st⟩
  · rfl
  dsimp only
  rcases (p.packages.install (outer ++ [installSpan r]) chart r).run st with ⟨_ | release, st⟩ <;>
    rfl

namespace Helm

/-! ### Installing a chart -/

/-- The stages of an install run of helm whose failure is reported, in the order of precedence. -/
inductive InstallStage where
  | spawn
  | wait
  | exit
  | write
  | parse
  deriving DecidableEq, Repr

def InstallStage.failure (run : Except OsError ChildRun) : InstallStage → Option String
  | .spawn =>
    match run with
    | .error e => some ("failed to run helm: " ++ e.text)
    | .ok _ => none
  | .wait =>
    match run with
    | .ok ⟨_, .error e⟩ => some e.text
    | _ => none
  | .exit =>
    match run with
    | .ok ⟨_, .ok out⟩ => if out.status = 0 then none else some (stderrText out)
    | _ => none
  | .write =>
    match run with
    | .ok ⟨.error e, _⟩ => some e.text
    | _ => none
  | .parse =>
    match run with
    | .ok ⟨_, .ok out⟩ =>
      match parseRelease out.stdout with
      | .error e => some ("unexpected helm output: " ++ e.message)
      | .ok _ => none
    | _ => none

def installStages : List InstallStage := [.spawn, .wait, .exit, .write, .parse]

def firstFailure (run : Except OsError ChildRun) : Option String :=
  installStages.findSome? (InstallStage.failure run)

theorem installChart_eq_map {m : Type → Type} [Monad m] [LawfulMonad m] (s : Settings)
    (host : Host m) (chart : Chart) (r : ReleaseRequest) :
    installChart s host chart r = installVerdict r <$>
      host.run s.binary (installArgs s.kubeContext r.release chart.path r.ns)
        (some (valuesYaml r.values)) := by
  simp only [installChart, bind_pure_comp]

theorem installVerdict_cases (r : ReleaseRequest) (run : Except OsError ChildRun) :
    (∃ msg, firstFailure run = some msg ∧
      installVerdict r run = .error (.install r.release r.ns msg)) ∨
    (firstFailure run = none ∧ ∃ child out release, run = .ok child ∧ child.waited = .ok out ∧
      parseRelease out.stdout = .ok release ∧ installVerdict r run = .ok release) := by
  rcases run with e | ⟨written, waited⟩
  case error =>
    simp [firstFailure, installStages, List.findSome?_cons, InstallStage.failure, installVerdict]
  rcases waited with e | out
  case error =>
    simp [firstFailure, installStages, List.findSome?_cons, InstallStage.failure, installVerdict]
  by_cases hexit : out.status = 0
  case neg =>
    -- helm's own diagnostics win, whether or not the values were written
    simp [firstFailure, installStages, List.findSome?_cons, InstallStage.failure, installVerdict,
      hexit]
  rcases written with e | ⟨⟩
  case error =>
    simp [firstFailure, installStages, List.findSome?_cons, InstallStage.failure, installVerdict,
      hexit]
  cases hp : parseRelease out.stdout with
  | error e =>
    simp [firstFailure, installStages, List.findSome?_cons, InstallStage.failure, installVerdict,
      hexit, hp]
  | ok release =>
    simp [firstFailure, installStages, List.findSome?_cons, InstallStage.failure, installVerdict,
      hexit, hp]

theorem installVerdict_eq_error {r : ReleaseRequest} {run : Except OsError ChildRun}
    {e : ReleaseError} :
    installVerdict r run = .error e ↔
      ∃ msg, firstFailure run = some msg ∧ e = .install r.release r.ns msg := by
  rcases installVerdict_cases r run with ⟨msg, hf, hv⟩ | ⟨hf, _, _, _, _, _, _, hv⟩
  · rw [hv]
    constructor
    · rintro ⟨⟩
      exact ⟨msg, hf, rfl⟩
    · rintro ⟨msg', hf', rfl⟩
      rw [hf] at hf'
      cases hf'
      rfl
  · simp [hv, hf]

theorem installVerdict_eq_ok {r : ReleaseRequest} {run : Except OsError ChildRun}
    {release : Release} :
    installVerdict r run = .ok release ↔ firstFailure run = none ∧
      ∃ child out, run = .ok child ∧ child.waited = .ok out ∧
        parseRelease out.stdout = .ok release := by
  rcases installVerdict_cases r run with ⟨msg, hf, hv⟩ |
    ⟨hf, child, out, printed, rfl, hout, hp, hv⟩
  · simp [hv, hf]
  · rw [hv]
    constructor
    · rintro ⟨⟩
      exact ⟨hf, child, out, rfl, hout, hp⟩
    · rintro ⟨-, child', out', hchild, hout', hp'⟩
      cases hchild
      rw [hout] at hout'
      cases hout'
      rw [hp] at hp'
      cases hp'
      rfl

/-- Installing a chart, in any monad and on any host, runs helm once and reports the first
failing stage of that run: helm could not be started, waiting for it failed, it exited with an
error (even when writing the values failed too), writing the values failed, its output is not a
release. Every failure names the release and its namespace, so none is a resolution failure;
when no stage fails the result is the release helm printed. -/
theorem installChart_reports_first_failure {m : Type → Type} [Monad m] [LawfulMonad m]
    (s : Settings) (host : Host m) (chart : Chart) (r : ReleaseRequest) :
    installChart s host chart r = installVerdict r <$>
      host.run s.binary (installArgs s.kubeContext r.release chart.path r.ns)
        (some (valuesYaml r.values)) ∧
    ∀ run, (∀ e, installVerdict r run = .error e ↔
        ∃ msg, firstFailure run = some msg ∧ e = .install r.release r.ns msg) ∧
      (∀ release, installVerdict r run = .ok release ↔ firstFailure run = none ∧
        ∃ child out, run = .ok child ∧ child.waited = .ok out ∧
          parseRelease out.stdout = .ok release) ∧
      (∀ e, installVerdict r run = .error e → e.isResolution = false) := by
  refine ⟨installChart_eq_map s host chart r, fun run => ⟨fun e => installVerdict_eq_error,
    fun release => installVerdict_eq_ok, fun e h => ?_⟩⟩
  obtain ⟨msg, -, rfl⟩ := installVerdict_eq_error.1 h
  rfl

def nameInUse : Output :=
  ⟨1, .empty, "Error: INSTALLATION FAILED: cannot re-use a name that is still in use".toUTF8⟩

def nameInUseHost : Host Id :=
  ⟨fun _ => .ok (), fun _ => .ok (), fun _ => .error .noEntry,
    fun _ _ _ => .ok ⟨.error .brokenPipe, .ok nameInUse⟩⟩

theorem installChart_reports_first_failure_nameInUse :
    installChart ⟨"helm", none, "cache"⟩ nameInUseHost ⟨"grafana", ⟨"grafana", "7.0.0", none⟩⟩
        ⟨"grafana", "grafana", "grafana", "monitoring", .obj []⟩ =
      .error (.install "grafana" "monitoring" (stderrText nameInUse)) := by
  have h := installChart_reports_first_failure ⟨"helm", none, "cache"⟩ nameInUseHost
    ⟨"grafana", ⟨"grafana", "7.0.0", none⟩⟩ ⟨"grafana", "grafana", "grafana", "monitoring", .obj []⟩
  rw [h.1]
  exact ((h.2 _).1 _).2 ⟨_, rfl, rfl⟩

/-! ### The steps of helm on a recording host -/

def helmOn (s : Settings) (resp : HostResponder) : PackageManager HostLog :=
  packageManager s (recordingHost resp) fun _ _ => pure ()

def helmPlatform (s : Settings) (resp : HostResponder) : Platform HostLog :=
  ⟨fun _ _ => pure (.ok ()), helmOn s resp, fun _ _ => pure ()⟩

def locateCalls (s : Settings) (repo chart : String) : List HostCall :=
  [.removeDirAll (chartDir s repo chart), .createDirAll (pullDir s repo),
    .run s.binary (pullArgs s.kubeContext (repo ++ "/" ++ chart) (pullDir s repo)) none]

/-- What locating `repo/chart` after the calls `log` may leave: the calls it made are the first
ones of `locateCalls`, a failure is a resolution failure of the chart, and a success made every
call and gives the chart's directory. -/
def LocateOutcome (s : Settings) (repo chart : String) (log : List HostCall) :
    Except ReleaseError String × List HostCall → Prop
  | (res, log') => ∃ calls, calls <+: locateCalls s repo chart ∧ log' = log ++ calls ∧
      (∀ e, res = .error e → ∃ msg, e = .chartResolution (repo ++ "/" ++ chart) msg) ∧
      (∀ p, res = .ok p → p = chartDir s repo chart ∧ calls = locateCalls s repo chart)

set_option mvcgen.warning false in
open Std.Do in
theorem locateChart_run (s : Settings) (resp : HostResponder) (scope : Scope)
    (repo chart : String) (log : List HostCall) :
    LocateOutcome s repo chart log (((helmOn s resp).locate scope repo chart).run log) := by
  apply StateM.of_wp_run_eq rfl
  mvcgen [helmOn, packageManager, locateChart, recordingHost]
  all_goals simp_all +zetaDelta [LocateOutcome, locateCalls, chartDir]
  all_goals split <;> simp

theorem loadChartFrom_error {path : String} {file : Option ByteArray} {e : ReleaseError}
    (h : loadChartFrom path file = .error e) : ∃ msg, e = .chartLoad path msg := by
  unfold loadChartFrom at h
  repeat' split at h
  all_goals cases h
  all_goals exact ⟨_, rfl⟩

def LoadOutcome (path : String) (log : List HostCall) :
    Except ReleaseError Chart × List HostCall → Prop
  | (res, log') => log' = log ++ [.readFile (Path.join path "Chart.yaml")] ∧
      ∀ e, res = .error e → ∃ msg, e = .chartLoad path msg

set_option mvcgen.warning false in
open Std.Do in
theorem loadChart_run (s : Settings) (resp : HostResponder) (scope : Scope) (path : String)
    (log : List HostCall) :
    LoadOutcome path log (((helmOn s resp).load scope path).run log) := by
  apply StateM.of_wp_run_eq rfl
  mvcgen [helmOn, packageManager, loadChart, recordingHost]
  all_goals simp_all +zetaDelta [LoadOutcome]
  exact fun e h => loadChartFrom_error h

theorem installChart_run (s : Settings) (resp : HostResponder) (scope : Scope) (chart : Chart)
    (r : ReleaseRequest) (log : List HostCall) :
    ((helmOn s resp).install scope chart r).run log =
      (installVerdict r (resp.run log s.binary
          (installArgs s.kubeContext r.release chart.path r.ns) (some (valuesYaml r.values))),
        log ++ [.run s.binary (installArgs s.kubeContext r.release chart.path r.ns)
          (some (valuesYaml r.values))]) := by
  change (installChart s (recordingHost resp) chart r).run log = _
  rw [installChart_eq_map]
  rfl

def Installs (s : Settings) (r : ReleaseRequest) (c : HostCall) : Prop :=
  ∃ path, c = .run s.binary (installArgs s.kubeContext r.release path r.ns)
    (some (valuesYaml r.values))

theorem pullArgs_ne_installArgs (context : Option String) (chartRef dest release path ns : String) :
    pullArgs context chartRef dest ≠ installArgs context release path ns := by
  simp [pullArgs, installArgs]

theorem not_installs_of_mem_locateCalls {s : Settings} {r : ReleaseRequest} {repo chart : String}
    {c : HostCall} (h : c ∈ locateCalls s repo chart) : ¬Installs s r c := by
  rintro ⟨path, rfl⟩
  simp only [locateCalls, List.mem_cons, reduceCtorEq, HostCall.run.injEq, List.not_mem_nil,
    or_false, false_or] at h
  exact pullArgs_ne_installArgs _ _ _ _ _ _ h.2.1.symm

theorem installRelease_helm_error (s : Settings) (resp : HostResponder) (scope : Scope)
    (r : ReleaseRequest) (log : List HostCall) {e : ReleaseError}
    (h : ((installRelease (helmPlatform s resp) scope r).run.run log).1 = .error e) :
    ∃ calls, ((installRelease (helmPlatform s resp) scope r).run.run log).2 = log ++ calls ∧
      (e.isResolution = true ↔ ∀ c ∈ calls, ¬Installs s r c) := by
  rw [installRelease_run_quiet _ (fun _ _ => rfl)] at h ⊢
  dsimp only [helmPlatform] at h ⊢
  revert h
  have hlocate := locateChart_run s resp (scope ++ [installSpan r]) r.repo r.chart log
  rcases hl : ((helmOn s resp).locate (scope ++ [installSpan r]) r.repo r.chart).run log with
    ⟨_ | path, log₁⟩
  case error e' =>
    obtain ⟨calls, hpre, hlog, herr, -⟩ := hl ▸ hlocate
    rintro ⟨⟩
    obtain ⟨msg, rfl⟩ := herr _ rfl
    exact ⟨calls, hlog,
      iff_of_true rfl fun c hc => not_installs_of_mem_locateCalls (hpre.subset hc)⟩
  case ok =>
    obtain ⟨calls, -, hlog, -, hok⟩ := hl ▸ hlocate
    obtain ⟨-, rfl⟩ := hok path rfl
    have hload := loadChart_run s resp (scope ++ [installSpan r]) path log₁
    simp only
    rcases hd : ((helmOn s resp).load (scope ++ [installSpan r]) path).run log₁ with
      ⟨_ | chart, log₂⟩
    case error e' =>
      obtain ⟨hlog₂, herr⟩ := hd ▸ hload
      rintro ⟨⟩
      obtain ⟨msg, rfl⟩ := herr _ rfl
      refine ⟨locateCalls s r.repo r.chart ++ [.readFile (Path.join path "Chart.yaml")],
        by simp [hlog, hlog₂], iff_of_true rfl fun c hc => ?_⟩
      rw [List.mem_append, List.mem_singleton] at hc
      rcases hc with hc | rfl
      · exact not_installs_of_mem_locateCalls hc
      · rintro ⟨_, ⟨⟩⟩
    case ok =>
      obtain ⟨hlog₂, -⟩ := hd ▸ hload
      simp only [installChart_run]
      intro h
      obtain ⟨msg, -, rfl⟩ := installVerdict_eq_error.1 h
      refine ⟨locateCalls s r.repo r.chart ++ [.readFile (Path.join path "Chart.yaml"),
          .run s.binary (installArgs s.kubeContext r.release chart.path r.ns)
            (some (valuesYaml r.values))], by simp [hlog, hlog₂], ?_⟩
      simp only [ReleaseError.isResolution, Bool.false_eq_true, false_iff, not_forall, not_not]
      exact ⟨_, by simp, chart.path, rfl⟩

/-- Every failure of a helm step is reported as a failure of that step: locating as a
resolution failure of `repo/chart`, loading as a load failure of the path, installing as an
install failure of the release and its namespace. So when a release is installed with helm, its
failure is a resolution failure, with exit code 3, exactly when helm was never asked to install
it, and otherwise has exit code 4. -/
theorem helm_failures_name_their_step (s : Settings) (resp : HostResponder) (scope : Scope)
    (log : List HostCall) :
    (∀ repo chart e, (((helmOn s resp).locate scope repo chart).run log).1 = .error e →
      ∃ msg, e = .chartResolution (repo ++ "/" ++ chart) msg) ∧
    (∀ path e, (((helmOn s resp).load scope path).run log).1 = .error e →
      ∃ msg, e = .chartLoad path msg) ∧
    (∀ chart r e, (((helmOn s resp).install scope chart r).run log).1 = .error e →
      ∃ msg, e = .install r.release r.ns msg) ∧
    (∀ r e, ((installRelease (helmPlatform s resp) scope r).run.run log).1 = .error e →
      ∃ calls, ((installRelease (helmPlatform s resp) scope r).run.run log).2 = log ++ calls ∧
        (e.isResolution = true ↔ ∀ c ∈ calls, ¬Installs s r c) ∧
        ((Failure.release e).exitCode = exitResolution ↔ ∀ c ∈ calls, ¬Installs s r c) ∧
        ((Failure.release e).exitCode = exitTransaction ↔ ∃ c ∈ calls, Installs s r c)) := by
  refine ⟨fun repo chart e h => ?_, fun path e h => (loadChart_run s resp scope path log).2 e h,
    fun chart r e h => ?_, fun r e h => ?_⟩
  · obtain ⟨_, -, -, herr, -⟩ := locateChart_run s resp scope repo chart log
    exact herr e h
  · rw [installChart_run] at h
    obtain ⟨msg, -, rfl⟩ := installVerdict_eq_error.1 h
    exact ⟨msg, rfl⟩
  · obtain ⟨calls, hlog, hres⟩ := installRelease_helm_error s resp scope r log h
    refine ⟨calls, hlog, hres, ?_, ?_⟩
    · rw [← hres]
      cases hr : e.isResolution <;> simp [Failure.exitCode, hr, exitResolution, exitTransaction]
    · rw [← not_iff_not, not_exists]
      simp only [not_and]
      rw [← hres]
      cases hr : e.isResolution <;> simp [Failure.exitCode, hr, exitResolution, exitTransaction]

def blockedCache : HostResponder :=
  ⟨fun _ _ => .error .notDirectory, fun _ _ => .ok (), fun _ _ => .error .noEntry,
    fun _ _ _ _ => .error .noEntry⟩

theorem helm_failures_name_their_step_blocked :
    let r : ReleaseRequest := ⟨"grafana", "grafana", "grafana", "monitoring", .obj []⟩
    let run := (installRelease (helmPlatform ⟨"helm", none, "cache"⟩ blockedCache) [] r).run.run []
    run.1 = .error (.chartResolution "grafana/grafana" OsError.notDirectory.text) ∧
      ∃ calls, run.2 = calls ∧ (∀ c ∈ calls, ¬Installs ⟨"helm", none, "cache"⟩ r c) ∧
        (Failure.release (.chartResolution "grafana/grafana" OsError.notDirectory.text)).exitCode =
          exitResolution := by
  intro r run
  have hrun : run.1 = .error (.chartResolution "grafana/grafana" OsError.notDirectory.text) := rfl
  obtain ⟨calls, hlog, hres, hexit, -⟩ :=
    (helm_failures_name_their_step ⟨"helm", none, "cache"⟩ blockedCache [] []).2.2.2 r _ hrun
  exact ⟨hrun, calls, by simpa using hlog, hres.1 rfl, hexit.2 (hres.1 rfl)⟩

end Helm

end Provisioner
