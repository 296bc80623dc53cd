import Provisioner.Host
import Provisioner.Platform
import Provisioner.Path
import Provisioner.Helm.Args
import Provisioner.Helm.Settings
import Provisioner.Helm.Release
import Provisioner.Helm.ChartFile
import Provisioner.Helm.Values
import Provisioner.Text.Utf8
import Provisioner.Text.Blank

/-! The package manager that runs helm on a machine. Locating a chart clears its cache
directory, creates the repository's and has helm pull it there; loading reads `Chart.yaml`;
installing runs helm with the values as YAML on its standard input. Each failure is reported as
the failure of its step, with helm's trimmed error output as the message. -/

namespace Provisioner.Helm

def helmTarget : String := "ucac_operator::release::helm"

def stderrText (out : Output) : String := Text.trim (Text.Utf8.lossy out.stderr.toList)

def pullDir (s : Settings) (repo : String) : String := Path.join s.cacheDir repo

def chartDir (s : Settings) (repo chart : String) : String := Path.join (pullDir s repo) chart

section

variable {m : Type → Type} [Monad m]

def locateChart (s : Settings) (host : Host m) (emit : Scope → Event → m Unit) (scope : Scope)
    (repo chart : String) : m (Except ReleaseError String) := do
  let chartRef := repo ++ "/" ++ chart
  let fail (message : String) : Except ReleaseError String := .error (.chartResolution chartRef message)
  let dest := pullDir s repo
  let dir := Path.join dest chart
  match ← host.removeDirAll dir with
  | .error e => if e != .noEntry then return fail e.text else pure ()
  | .ok () => pure ()
  match ← host.createDirAll dest with
  | .error e => return fail e.text
  | .ok () => pure ()
  emit scope ⟨.debug, helmTarget, "pulling chart", [("chart", chartRef), quotedField "dest" dest]⟩
  match ← host.run s.binary (pullArgs s.kubeContext chartRef dest) none with
  | .error e => return fail ("failed to run helm: " ++ e.text)
  | .ok child =>
    match child.waited with
    | .error e => return fail ("failed to run helm: " ++ e.text)
    | .ok out => return if out.status != 0 then fail (stderrText out) else .ok dir

def loadChart (host : Host m) (path : String) : m (Except ReleaseError Chart) := do
  match ← host.readFile (Path.join path "Chart.yaml") with
  | .error e => return .error (.chartLoad path e.text)
  | .ok bytes => return loadChartFrom path (some bytes)

end

/-- The result of an install run of helm, decided from how the run went: it could not start;
waiting for it failed; it exited with an error; writing the values failed; its output is not
a release; or the release it printed. -/
def installVerdict (r : ReleaseRequest) (run : Except OsError ChildRun) :
    Except ReleaseError Release :=
  let fail (message : String) : Except ReleaseError Release := .error (.install r.release r.ns message)
  match run with
  | .error e => fail ("failed to run helm: " ++ e.text)
  | .ok child =>
    match child.waited with
    | .error e => fail e.text
    | .ok out =>
      if out.status != 0 then fail (stderrText out)
      else match child.written with
        | .error e => fail e.text
        | .ok () =>
          match parseRelease out.stdout with
          | .ok release => .ok release
          | .error e => fail ("unexpected helm output: " ++ e.message)

def installChart {m : Type → Type} [Monad m] (s : Settings) (host : Host m) (chart : Chart)
    (r : ReleaseRequest) : m (Except ReleaseError Release) := do
  let run ← host.run s.binary (installArgs s.kubeContext r.release chart.path r.ns)
    (some (valuesYaml r.values))
  return installVerdict r run

def packageManager {m : Type → Type} [Monad m] (s : Settings) (host : Host m)
    (emit : Scope → Event → m Unit) : PackageManager m :=
  ⟨locateChart s host emit, fun _ path => loadChart host path,
    fun _ chart r => installChart s host chart r⟩

end Provisioner.Helm
