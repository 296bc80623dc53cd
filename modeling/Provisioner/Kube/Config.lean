import Provisioner.Host
import Provisioner.Path
import Provisioner.Failure
import Provisioner.Journal
import Provisioner.Yaml.Tree
import Provisioner.Text.Quote
import Provisioner.Text.Utf8

/-! Finding the cluster a client talks to, from the kubeconfig files `KUBECONFIG` lists (or
`.kube/config` in the home directory). The first file to set a value wins and the first failure
ends the search. Asked for no context, a client falls back on in-cluster settings, which are
never present here, so it fails naming both faults. -/

namespace Provisioner.Kube

structure NamedContext where
  name : String
  cluster : String
  user : String
  ns : Option String

structure Kubeconfig where
  currentContext : Option String := none
  contexts : List NamedContext := []
  clusters : List (String × Option String) := []

inductive ConfigFault where
  | read (path : String) (e : OsError)
  | parse (message : String)
  | noCurrentContext
  | context (name : String)
  | cluster (name : String)
  | noServer
  deriving DecidableEq, Repr

def ConfigFault.text : ConfigFault → String
  | .read path e => "failed to read kubeconfig from '" ++ Text.quote path ++ "': " ++ e.text
  | .parse m => "failed to parse kubeconfig YAML: " ++ m
  | .noCurrentContext => "current-context is not set"
  | .context n => "failed to load current context: " ++ n
  | .cluster n => "failed to load the cluster of context: " ++ n
  | .noServer => "cluster url is missing on selected cluster"

def ConfigFault.sources : ConfigFault → List String
  | .read _ e => [e.text]
  | .parse m => [m]
  | _ => []

def inClusterAbsent : String :=
  "failed to read an incluster environment variable: environment variable not found"

def Kubeconfig.ofTree (t : Yaml.Tree) : Kubeconfig :=
  let contexts := ((t.field? "contexts").map Yaml.Tree.items).getD [] |>.filterMap fun c => do
    let name ← (c.field? "name").bind Yaml.Tree.text?
    let body ← c.field? "context"
    let cluster := ((body.field? "cluster").bind Yaml.Tree.text?).getD ""
    let user := ((body.field? "user").bind Yaml.Tree.text?).getD ""
    return ⟨name, cluster, user, (body.field? "namespace").bind Yaml.Tree.text?⟩
  let clusters := ((t.field? "clusters").map Yaml.Tree.items).getD [] |>.filterMap fun c => do
    let name ← (c.field? "name").bind Yaml.Tree.text?
    return (name, ((c.field? "cluster").bind (·.field? "server")).bind Yaml.Tree.text?)
  ⟨(t.field? "current-context").bind Yaml.Tree.text?, contexts, clusters⟩

def Kubeconfig.merge (a b : Kubeconfig) : Kubeconfig :=
  ⟨a.currentContext <|> b.currentContext, a.contexts ++ b.contexts, a.clusters ++ b.clusters⟩

def Kubeconfig.ofBytes (bytes : ByteArray) : Except ConfigFault Kubeconfig :=
  match Text.Utf8.decode? bytes.toList with
  | none => .error (.read "" .invalidText)
  | some text =>
    let (doc, _) := Yaml.loadFirst text
    match doc.fault with
    | some f => .error (.parse f.message)
    | none => .ok (Kubeconfig.ofTree doc.tree)

def kubeconfigPaths (env : String → Option String) : List String :=
  let listed := match env "KUBECONFIG" with
    | some v => (v.splitOn ":").filter (· != "")
    | none => []
  if listed.isEmpty then [Path.join ((env "HOME").getD "") ".kube/config"] else listed

def Kubeconfig.select (k : Kubeconfig) (context : Option String) :
    Except ConfigFault (NamedContext × String) := do
  let name ← match context <|> k.currentContext with
    | some n => pure n
    | none => throw .noCurrentContext
  let ctx ← match k.contexts.find? (·.name == name) with
    | some c => pure c
    | none => throw (.context name)
  let server ← match k.clusters.find? (·.1 == ctx.cluster) with
    | some (_, some s) => pure s
    | some (_, none) => throw .noServer
    | none => throw (.cluster ctx.cluster)
  return (ctx, server)

section

variable {m : Type → Type} [Monad m]

def readMore (readFile : String → m (Except OsError ByteArray))
    (acc : Except ConfigFault Kubeconfig) (path : String) : m (Except ConfigFault Kubeconfig) := do
  match acc with
  | .error e => return .error e
  | .ok k =>
    match ← readFile path with
    | .error e => return .error (.read path e)
    | .ok bytes =>
      return match Kubeconfig.ofBytes bytes with
        | .ok k' => .ok (k.merge k')
        | .error (.read _ e) => .error (.read path e)
        | .error e => .error e

def readKubeconfig (readFile : String → m (Except OsError ByteArray))
    (paths : List String) : m (Except ConfigFault Kubeconfig) :=
  paths.foldlM (readMore readFile) (.ok {})

/-- Finds the cluster of a context, or of the current one with the fallback inside a cluster;
a failed fallback is reported as a trace event before it fails. -/
def connect (env : String → Option String) (readFile : String → m (Except OsError ByteArray))
    (emit : Event → m Unit) (context : Option String) : m (Except Failure (NamedContext × String)) := do
  let found := (← readKubeconfig readFile (kubeconfigPaths env)) >>= (·.select context)
  match found, context with
  | .ok c, _ => return .ok c
  | .error e, some _ => return .error (.kubeconfig e.text)
  | .error e, none =>
    let sources := if e.sources.isEmpty then ""
      else " error.sources=[" ++ ", ".intercalate e.sources ++ "]"
    emit ⟨.trace, "kube_client::config",
      "no local config found, falling back to local in-cluster config",
      [("error", e.text ++ sources)]⟩
    return .error (.kube ("Failed to infer configuration: failed to infer config: in-cluster: (" ++
      inClusterAbsent ++ "), kubeconfig: (" ++ e.text ++ ")"))

end

end Provisioner.Kube
