import Provisioner.Cli.Parse
import Provisioner.Log.Filter
import Provisioner.Log.Line
import Provisioner.Kube.Config
import Provisioner.Telemetry.Endpoint
import Provisioner.Helm.Manager
import Provisioner.Monitoring.Init
import Provisioner.Harness.Deploy

/-! A run of the command line, from its words to its exit code.

A command line that asks for help or the version prints it and succeeds; a wrong one prints
its refusal on the error output and exits with 2. Otherwise the telemetry endpoint, if any,
must be a URI and the log filter must read, or the run exits with 1 before logging anything.
The run then logs its start, finds the cluster, and runs the command against the cluster and
helm. A command that succeeds logs what it made; one that fails logs why and exits with its
failure's code. Every failed connection to the cluster is logged by the client as it happens.
With a telemetry endpoint, shutting down reports the spans that could not be sent (if any were
recorded) and the metrics that could not be flushed, and the run exits with 1. -/

namespace Provisioner.Cli

structure Surroundings (m : Type → Type) where
  env : String → Option String
  host : Host m
  send : Kube.KubeObject → m (Except ClientError Unit)
  out : String → m Unit
  err : String → m Unit

inductive Task where
  | init (c : InitConfig)
  | performance (c : PerformanceConfig)

def Task.name : Task → String
  | .init _ => "init"
  | .performance _ => "performance"

structure Invocation where
  endpoint : Option String
  helm : Helm.Settings
  task : Task

namespace Parsed

def globalValue (p : Parsed) (id : String) : Option String :=
  match p.top.find? id, p.sub.find? id with
  | some a, some b => if a.source.rank > b.source.rank then a.values.head? else b.values.head?
  | some a, none => a.values.head?
  | none, some b => b.values.head?
  | none, none => none

def values (p : Parsed) (id : String) : List String :=
  ((p.sub.find? id).map (·.values)).getD []

def value (p : Parsed) (id : String) : Option String := (p.values id).head?

def count (p : Parsed) (id : String) (d : Nat) : Nat :=
  match p.value id with
  | some v => (readCount v).toOption.getD d
  | none => d

def switch (p : Parsed) (id : String) : Bool := p.value id == some "true"

def task (p : Parsed) : Task :=
  if p.subcommand == "init" then
    .init ⟨(p.value "namespace").getD "monitoring", p.switch "create_namespace",
      (p.value "scrape_interval").getD "10s", (p.value "grafana_admin_password").getD "admin123"⟩
  else
    let duration := match (p.value "test_duration").map Duration.parse with
      | some (.ok d) => d
      | _ => Duration.oneSecond
    let strategy := match (p.value "tests_strategy").map Strategy.parse with
      | some (.ok s) => s
      | _ => .delayOnConflicts
    .performance ⟨(p.value "namespace").getD "default", p.switch "create_namespace",
      ⟨(p.value "image").getD ({} : ImageConfig).image, p.value "image_pull_policy"⟩,
      ⟨Topology.ofCounts ((p.values "peers").map fun v => (readCount v).toOption.getD 0),
        p.count "single_requests_number" 1, p.count "multiple_requests_number" 0, duration,
        p.count "max_peersets_in_change" 2, strategy⟩⟩

/-- The invocation of a read command line; the chart cache defaults to a directory in the
temporary directory, `TMPDIR` or else `/tmp`. -/
def invocation (env : String → Option String) (p : Parsed) : Invocation :=
  let temp := (env "TMPDIR").getD "/tmp"
  ⟨p.top.find? "otlp_endpoint" |>.bind (·.values.head?),
    ⟨(p.globalValue "helm_bin").getD "helm", p.globalValue "kube_context",
      (p.globalValue "chart_cache").getD (Path.join temp Helm.cacheDirName)⟩,
    p.task⟩

end Parsed

def environmentNames : List String :=
  ["HOME", "TMPDIR", "KUBECONFIG", "RUST_LOG"] ++
    ((topCommand.settings ++ initSettings ++ performanceSettings).filterMap (·.env)).eraseDups

def lines (text : String) : List String := text.splitOn "\n"

abbrev RunM (m : Type → Type) := StateT Bool m

section

variable {m : Type → Type} [Monad m]

def Surroundings.runHost (s : Surroundings m) : Host (RunM m) where
  removeDirAll p := StateT.lift (s.host.removeDirAll p)
  createDirAll p := StateT.lift (s.host.createDirAll p)
  readFile p := StateT.lift (s.host.readFile p)
  run prog args input := StateT.lift (s.host.run prog args input)

def noteScope (f : Log.Filter) (scope : Scope) : RunM m Unit := do
  if f.showsSpan scope then set true

def report (s : Surroundings m) (f : Log.Filter) (scope : Scope) (e : Event) : RunM m Unit := do
  noteScope f scope
  match f.shownIn? scope e with
  | some spans => (lines (Log.line spans e)).forM fun l => StateT.lift (s.out l)
  | none => pure ()

def clientTarget : String := "kube_client::client::builder"

def platform (s : Surroundings m) (f : Log.Filter) (settings : Helm.Settings) :
    Platform (RunM m) where
  post scope o := do
    noteScope f scope
    let r ← StateT.lift (s.send o)
    match r with
    | .error (.connection d) => report s f scope ⟨.error, clientTarget, "failed with error " ++ d, []⟩
    | _ => pure ()
    return r
  packages := Helm.packageManager settings s.runHost (report s f)
  emit := report s f

def installedEvent (r : Release) : Event :=
  ⟨.info, "ucac", "release installed",
    [("release", r.name), ("namespace", r.ns), ("revision", toString r.revision), ("status", r.status)]⟩

def deployedEvent (c : PerformanceConfig) (o : PerformanceOutcome) : Event :=
  ⟨.info, "ucac", "performance test deployed",
    [("namespace", c.ns), ("outcome", "PerformanceOutcome \x7b service: " ++ o.service.text ++
      ", config_map: " ++ o.configMap.text ++ ", job: " ++ o.job.text ++ " \x7d")]⟩

def perform (s : Surroundings m) (f : Log.Filter) (inv : Invocation) :
    RunM m (Except Failure (List Event)) := do
  match ← Kube.connect s.env s.runHost.readFile (report s f []) inv.helm.kubeContext with
  | .error e => return .error e
  | .ok _ =>
    let p := platform s f inv.helm
    match inv.task with
    | .init c => return (← (init p c).run).map (·.map installedEvent)
    | .performance c => return (← (performance p c).run).map fun o => [deployedEvent c o]

def execute (s : Surroundings m) (f : Log.Filter) (inv : Invocation) : RunM m Nat := do
  let shown := match inv.endpoint with
    | some e => "Some(" ++ Text.quote e ++ ")"
    | none => "None"
  let name := Text.quote inv.task.name
  report s f [] ⟨.info, "ucac", "starting ucac", [("command", name), ("args.otlp_endpoint", shown)]⟩
  match ← perform s f inv with
  | .ok events =>
    events.forM (report s f [])
    return 0
  | .error e =>
    report s f [] ⟨.error, "ucac", "command failed", [("command", name), ("err", e.text)]⟩
    return e.exitCode

def filterRefusal : String :=
  "Error: invalid filter directive\n\nCaused by:\n    invalid filter directive"

/-- Runs a command line; the exit code. -/
def runCommandLine (s : Surroundings m) (args : List String) : m Nat := do
  let say (text : String) : m Unit := (lines text).forM s.out
  let complain (text : String) : m Unit := (lines text).forM s.err
  match readCommandLine s.env args with
  | .error (.help text) => say text; return 0
  | .error .version => say versionLine; return 0
  | .error (.refused e) => complain e.text; return 2
  | .error (.helpInstead text) => complain text; return 2
  | .ok parsed =>
    let inv := parsed.invocation s.env
    match inv.endpoint.map Telemetry.checkUri with
    | some (.error fault) => complain ("Error: " ++ Telemetry.refusal fault); return 1
    | _ =>
      match Log.Filter.ofText? ((s.env "RUST_LOG").getD "") with
      | none => complain filterRefusal; return 1
      | some f =>
        let (code, recorded) ← (execute s f inv).run false
        if inv.endpoint.isNone then return code
        if recorded then s.err Telemetry.unsentSpans
        complain ("Error: " ++ Telemetry.metricsShutdown)
        return 1

end

end Provisioner.Cli
