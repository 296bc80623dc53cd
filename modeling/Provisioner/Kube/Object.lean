import Provisioner.Json.Value
import Provisioner.Labels

/-! The Kubernetes objects this tool creates: Namespaces, Services, ConfigMaps and Jobs. An
object is a kind, a name, a namespace for every kind but Namespace, labels, and the rest of
its body (a spec or data). Its body is the JSON sent to the API server, and its collection
path is where it is posted. -/

namespace Provisioner.Kube

def fieldManager : String := "ucac"

inductive Kind where
  | ns
  | service
  | configMap
  | job
  deriving DecidableEq, Repr

namespace Kind

def name : Kind → String
  | .ns => "Namespace"
  | .service => "Service"
  | .configMap => "ConfigMap"
  | .job => "Job"

def apiVersion : Kind → String
  | .job => "batch/v1"
  | _ => "v1"

def plural : Kind → String
  | .ns => "namespaces"
  | .service => "services"
  | .configMap => "configmaps"
  | .job => "jobs"

def groupPath (k : Kind) : String :=
  if k.apiVersion = "v1" then "/api/v1" else "/apis/" ++ k.apiVersion

end Kind

structure KubeObject where
  kind : Kind
  name : String
  ns : Option String
  labels : Option LabelMap
  rest : List (String × Json)

namespace KubeObject

def nsText (o : KubeObject) : String := o.ns.getD ""

/-- The metadata of an object: labels when it has them, name and, when namespaced,
namespace. -/
def metadata (o : KubeObject) : Json :=
  .obj ((match o.labels with
      | some l => [("labels", Json.ofStrings l.entries)]
      | none => []) ++
    ("name", .str o.name) ::
    match o.ns with
    | some n => [("namespace", .str n)]
    | none => [])

def body (o : KubeObject) : Json :=
  .obj ([("apiVersion", .str o.kind.apiVersion), ("kind", .str o.kind.name),
    ("metadata", o.metadata)] ++ o.rest)

def uri (o : KubeObject) : String :=
  o.kind.groupPath ++
    (match o.ns with
      | some n => "/namespaces/" ++ n ++ "/" ++ o.kind.plural
      | none => "/" ++ o.kind.plural) ++
    "?&fieldManager=" ++ fieldManager

end KubeObject

def namespaceObject (name : String) : KubeObject :=
  ⟨.ns, name, none, managedWith ∅, []⟩

def serviceObject (ns name : String) (spec : Json) (labels : LabelMap) : KubeObject :=
  ⟨.service, name, some ns, managedWith labels, [("spec", spec)]⟩

def configMapObject (ns name : String) (data labels : LabelMap) : KubeObject :=
  ⟨.configMap, name, some ns, managedWith labels, [("data", Json.ofStrings data.entries)]⟩

def jobObject (ns name : String) (spec : Json) (labels : LabelMap) : KubeObject :=
  ⟨.job, name, some ns, managedWith labels, [("spec", spec)]⟩

end Provisioner.Kube
