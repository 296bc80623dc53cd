import Mathlib
import Provisioner.Proofs.Recording
import Provisioner.Monitoring.Init

/-!
# Installing one release

On a recording platform the package manager answers each call from the calls before it, so a
law proved there holds for every script a package manager could follow. Installing a release
asks to locate the chart, then to load what was located, then to install what was loaded:
each once, each only when the one before it succeeded, and the first refusal is the answer
as the package manager gave it (`installStep`, `installRelease_run`, `install_calls_in_order`).
-/

namespace Provisioner

/-- What installing `r` after the calls `log` sends to the package manager, up to the first
refusal, and what it answers. -/
def installStep (resp : Responder) (log : List Request) (r : ReleaseRequest) :
    Except ReleaseError Release × List Request :=
  match resp.locate log r.repo r.chart with
  | .error e => (.error e, [Request.locate r.repo r.chart])
  | .ok path =>
    match resp.load (log ++ [Request.locate r.repo r.chart]) path with
    | .error e => (.error e, [Request.locate r.repo r.chart, Request.load path])
    | .ok chart =>
      (resp.install (log ++ [Request.locate r.repo r.chart, Request.load path]) chart r,
        [Request.locate r.repo r.chart, Request.load path, Request.install chart r])

theorem installStep_ok {resp : Responder} {log : List Request} {r : ReleaseRequest}
    {release : Release} (h : (installStep resp log r).1 = .ok release) :
    ∃ path chart, (installStep resp log r).2 =
      [Request.locate r.repo r.chart, Request.load path, Request.install chart r] := by
  unfold installStep at h ⊢
  split at h
  · cases h
  · rename_i path _
    split at h
    · cases h
    · rename_i chart _
      exact ⟨path, chart, rfl⟩

/-! ### The package manager of a recording platform -/

section
variable (resp : Responder) (scope : Scope) (log : List Request)

theorem recording_locate_run (repo chart : String) :
    ((recording resp).packages.locate scope repo chart).run log =
      (resp.locate log repo chart, log ++ [Request.locate repo chart]) := rfl

theorem recording_load_run (path : String) :
    ((recording resp).packages.load scope path).run log =
      (resp.load log path, log ++ [Request.load path]) := rfl

theorem recording_install_run (chart : Chart) (r : ReleaseRequest) :
    ((recording resp).packages.install scope chart r).run log =
      (resp.install log chart r, log ++ [Request.install chart r]) := rfl

theorem emit_bind_run {ε β : Type} (e : Event) (f : Unit → ExceptT ε Recorded β) :
    (liftM ((recording resp).emit scope e) >>= f : ExceptT ε Recorded β).run.run log =
      (f ()).run.run log := rfl

theorem mk_bind_run {ε α β : Type} (x : Recorded (Except ε α))
    (f : α → ExceptT ε Recorded β) :
    (ExceptT.mk x >>= f).run.run log =
      match x.run log with
      | (.ok a, log') => (f a).run.run log'
      | (.error e, log') => (.error e, log') := by
  rw [ExceptT.run_bind, ExceptT.run_mk, StateT.run_bind]
  rcases x.run log with ⟨a | a, log'⟩ <;> rfl

theorem installRelease_run (r : ReleaseRequest) :
    (installRelease (recording resp) scope r).run.run log =
      ((installStep resp log r).1, log ++ (installStep resp log r).2) := by
  simp only [installRelease, mk_bind_run, emit_bind_run, recording_locate_run, recording_load_run,
    recording_install_run, installStep]
  cases resp.locate log r.repo r.chart with
  | error e => rfl
  | ok path =>
    cases hd : resp.load (log ++ [Request.locate r.repo r.chart]) path with
    | error e => simp [hd]
    | ok chart =>
      cases hi :
          resp.install (log ++ [Request.locate r.repo r.chart, Request.load path]) chart r with
      | error e => simp [hd, hi]
      | ok release =>
        simp [hd, hi]
        rfl

end

/-- Installing a release locates its chart by the request's repository and chart name, loads
the path that was located and installs the chart that was loaded with the request, each call
exactly once and only after the one before it succeeded. A refusal ends the installation with
the package manager's own error; otherwise the answer is what the installation answered. -/
theorem install_calls_in_order (resp : Responder) (scope : Scope) (r : ReleaseRequest)
    (log : List Request) :
    let run := (installRelease (recording resp) scope r).run.run log
    (∀ e, resp.locate log r.repo r.chart = .error e →
      run = (.error e, log ++ [Request.locate r.repo r.chart])) ∧
    (∀ path e, resp.locate log r.repo r.chart = .ok path →
      resp.load (log ++ [Request.locate r.repo r.chart]) path = .error e →
      run = (.error e, log ++ [Request.locate r.repo r.chart, Request.load path])) ∧
    (∀ path chart, resp.locate log r.repo r.chart = .ok path →
      resp.load (log ++ [Request.locate r.repo r.chart]) path = .ok chart →
      run = (resp.install (log ++ [Request.locate r.repo r.chart, Request.load path]) chart r,
        log ++ [Request.locate r.repo r.chart, Request.load path, Request.install chart r])) := by
  simp only [installRelease_run]
  refine ⟨fun e hl => ?_, fun path e hl hd => ?_, fun path chart hl hd => ?_⟩
  · simp [installStep, hl]
  · simp [installStep, hl, hd]
  · simp [installStep, hl, hd]

def chartShelf : Responder :=
  ⟨fun _ _ => .ok (), fun _ repo chart => .ok ("charts/" ++ repo ++ "/" ++ chart),
    fun _ path => .ok ⟨path, ⟨"chart", "1.0.0", none⟩⟩,
    fun _ _ r => .ok ⟨r.release, r.ns, 1, "deployed"⟩⟩

theorem install_calls_in_order_shelf :
    (installRelease (recording chartShelf) [] (grafanaRequest "monitoring" "admin123")).run.run
        [] =
      (.ok ⟨"grafana", "monitoring", 1, "deployed"⟩,
        [Request.locate "grafana" "grafana", Request.load "charts/grafana/grafana",
          Request.install ⟨"charts/grafana/grafana", ⟨"chart", "1.0.0", none⟩⟩
            (grafanaRequest "monitoring" "admin123")]) :=
  (install_calls_in_order chartShelf [] (grafanaRequest "monitoring" "admin123") []).2.2 _ _
    rfl rfl

end Provisioner
