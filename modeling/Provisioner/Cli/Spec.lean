import Provisioner.Harness.Objects

/-! The arguments of the command line and the commands they belong to. An argument has a long
name, perhaps a short one, a line of help, an environment variable, perhaps a default, and the
way its values are read. The top command holds the telemetry endpoint and the helm arguments;
`init` installs the monitoring releases and `performance` deploys the test harness. -/

namespace Provisioner.Cli

inductive Reading where
  | text
  | count
  | duration
  | strategy
  | switch
  deriving DecidableEq, Repr

structure Setting where
  id : String
  long : String
  short : Option Char := none
  help : String
  env : Option String := none
  hideEnvValue : Bool := false
  default : Option String := none
  reading : Reading := .text
  many : Bool := false
  global : Bool := false
  order : Nat
  deriving Repr

namespace Setting

def takesValue (s : Setting) : Bool := s.reading != .switch

def valueName (s : Setting) : String := s.id.map Char.toUpper

def display (s : Setting) : String :=
  "--" ++ s.long ++ (if s.takesValue then " <" ++ s.valueName ++ ">" else "")

def sortKey (s : Setting) : String :=
  match s.short with
  | some c => String.ofList [c.toLower, if c.isLower then '0' else '1']
  | none => s.long

end Setting

/-- A command: its name as a path of words, what it does, its own arguments (the global ones
of the top command included), whether it prints a version, and its subcommands with what
each does. -/
structure Command where
  path : List String
  about : String
  settings : List Setting
  versioned : Bool := false
  subcommands : List (String × String) := []

def binName : String := "ucac"

def versionLine : String := "ucac-operator 0.1.0"

def globalSettings : List Setting := [
  { id := "helm_bin", long := "helm-bin", help := "Path to the helm binary",
    env := some "UCAC_HELM_BIN", default := some "helm", global := true, order := 3 },
  { id := "kube_context", long := "kube-context",
    help := "Kubeconfig context used for the cluster and helm instead of the current one",
    env := some "UCAC_KUBE_CONTEXT", global := true, order := 4 },
  { id := "chart_cache", long := "chart-cache", help := "Directory charts are pulled into",
    env := some "UCAC_CHART_CACHE", global := true, order := 5 }]

def otlpSetting : Setting :=
  { id := "otlp_endpoint", long := "otlp-endpoint",
    help := "Export traces and metrics to this OTLP endpoint",
    env := some "UCAC_OTLP_ENDPOINT", order := 0 }

def topCommand : Command where
  path := [binName]
  about := "CLI for provisioning monitoring and performance tests of ucac on K8s"
  settings := otlpSetting :: globalSettings
  versioned := true
  subcommands := [("init", "Install the prometheus and grafana releases"),
    ("performance", "Deploy the performance test harness")]

def initSettings : List Setting := [
  { id := "namespace", long := "namespace", short := some 'n',
    help := "Namespace receiving both releases", env := some "UCAC_NAMESPACE",
    default := some "monitoring", order := 0 },
  { id := "create_namespace", long := "create-namespace",
    help := "Create the namespace before installing", env := some "UCAC_CREATE_NAMESPACE",
    reading := .switch, order := 1 },
  { id := "scrape_interval", long := "scrape-interval",
    help := "How often prometheus scrapes its targets", env := some "UCAC_SCRAPE_INTERVAL",
    default := some "10s", order := 2 },
  { id := "grafana_admin_password", long := "grafana-admin-password",
    help := "Password of the grafana admin user", env := some "UCAC_GRAFANA_ADMIN_PASSWORD",
    hideEnvValue := true, default := some "admin123", order := 3 }]

def performanceSettings : List Setting := [
  { id := "namespace", long := "namespace", short := some 'n',
    help := "Namespace receiving the harness objects", env := some "UCAC_NAMESPACE",
    default := some "default", order := 0 },
  { id := "create_namespace", long := "create-namespace",
    help := "Create the namespace before deploying", env := some "UCAC_CREATE_NAMESPACE",
    reading := .switch, order := 1 },
  { id := "peers", long := "peers", help := "Number of peers in each peerset, e.g. 1,2",
    env := some "UCAC_PEERS", reading := .count, many := true, order := 2 },
  { id := "image", long := "image", help := "Image of the performance test harness",
    env := some "UCAC_IMAGE", default := some ({} : ImageConfig).image,
    order := 3 },
  { id := "image_pull_policy", long := "image-pull-policy",
    help := "Pull policy of the harness image", env := some "UCAC_IMAGE_PULL_POLICY",
    order := 4 },
  { id := "single_requests_number", long := "single-requests-number",
    help := "Number of changes sent to a single peerset",
    env := some "UCAC_SINGLE_REQUESTS_NUMBER", default := some "1", reading := .count,
    order := 5 },
  { id := "multiple_requests_number", long := "multiple-requests-number",
    help := "Number of changes spanning multiple peersets",
    env := some "UCAC_MULTIPLE_REQUESTS_NUMBER", default := some "0", reading := .count,
    order := 6 },
  { id := "test_duration", long := "test-duration", short := some 'd',
    help := "ISO-8601 duration of the test, e.g. PT1S or PT5M",
    env := some "UCAC_TEST_DURATION", default := some "PT1S", reading := .duration,
    order := 7 },
  { id := "max_peersets_in_change", long := "max-peersets-in-change",
    help := "Maximum number of peersets taking part in one change",
    env := some "UCAC_MAX_PEERSETS_IN_CHANGE", default := some "2", reading := .count,
    order := 8 },
  { id := "tests_strategy", long := "tests-strategy",
    help := "Strategy of the test: random or delay_on_conflicts",
    env := some "UCAC_TESTS_STRATEGY", default := some "delay_on_conflicts",
    reading := .strategy, order := 9 }]

def subcommand? (name : String) : Option Command :=
  let about := (topCommand.subcommands.find? (·.1 == name)).map (·.2)
  let own := if name == "init" then some initSettings
    else if name == "performance" then some performanceSettings else none
  match about, own with
  | some a, some s => some ⟨[binName, name], a, s ++ globalSettings, false, []⟩
  | _, _ => none

def helpAbout : String := "Print this message or the help of the given subcommand(s)"

namespace Command

def usageName (c : Command) : String := " ".intercalate c.path

def hasSubcommands (c : Command) : Bool := !c.subcommands.isEmpty

def subcommandNames (c : Command) : List String :=
  if c.hasSubcommands then c.subcommands.map (·.1) ++ ["help"] else []

def long? (c : Command) (name : String) : Option Setting :=
  c.settings.find? (·.long == name)

def short? (c : Command) (ch : Char) : Option Setting :=
  c.settings.find? (·.short == some ch)

def longNames (c : Command) : List String :=
  c.settings.map (·.long) ++ ["help"] ++ (if c.versioned then ["version"] else [])

end Command

end Provisioner.Cli
