import Provisioner.Json.Value
import Provisioner.Labels
import Provisioner.Harness.Params

/-! The Kubernetes specs of the harness, the notification Service and the Job, as JSON, the
parts of such specs that the harness check reads, and the check itself: the Service selects
the Job's pods and the Job's container reads the harness config map. -/

namespace Provisioner

def harnessContainerName : String := "performance-test"

structure ImageConfig where
  image : String := "ghcr.io/davenury/performance:latest"
  pullPolicy : Option String := none

def serviceSpec : Json :=
  .obj [("ports", .arr [.obj [("name", .str "service"), ("port", Json.ofNat harnessPort),
      ("targetPort", Json.ofNat harnessPort)]]),
    ("selector", Json.ofStrings harnessLabels.entries)]

/-- The spec of the harness Job: one container that is never restarted, reads the harness
config map and listens on the harness port. -/
def jobSpec (c : ImageConfig) : Json :=
  let container : Json := .obj ([
      ("envFrom", .arr [.obj [("configMapRef", .obj [("name", .str configMapName)])]]),
      ("image", .str c.image)] ++
    (match c.pullPolicy with
      | some p => [("imagePullPolicy", .str p)]
      | none => []) ++
    [("name", .str harnessContainerName),
      ("ports", .arr [.obj [("containerPort", Json.ofNat harnessPort)]])])
  .obj [("backoffLimit", Json.ofNat 0),
    ("template", .obj [("metadata", .obj [("labels", Json.ofStrings harnessLabels.entries)]),
      ("spec", .obj [("containers", .arr [container]), ("restartPolicy", .str "Never")])])]

namespace Spec

def labelsOf : Json → LabelMap
  | .obj members => LabelMap.ofList (members.filterMap fun
      | (k, .str v) => some (k, v)
      | _ => none)
  | _ => ∅

def itemsOf : Json → List Json
  | .arr items => items
  | _ => []

def selector (service : Json) : LabelMap :=
  ((service.field? "selector").map labelsOf).getD ∅

def podLabels (job : Json) : LabelMap :=
  (((job.field? "template").bind (·.field? "metadata")).bind (·.field? "labels")
    |>.map labelsOf).getD ∅

def containers (job : Json) : List Json :=
  (((job.field? "template").bind (·.field? "spec")).bind (·.field? "containers")
    |>.map itemsOf).getD []

def configMapsRead (container : Json) : List String :=
  (((container.field? "envFrom").map itemsOf).getD []).filterMap fun source =>
    match (source.field? "configMapRef").bind (·.field? "name") with
    | some (.str name) => some name
    | _ => none

end Spec

inductive HarnessFault where
  | noSelector
  | selectorMismatch (unmatched : List String)
  | configMapUnread
  deriving DecidableEq, Repr

def HarnessFault.message : HarnessFault → String
  | .noSelector => "service " ++ notificationServiceName ++ " has no selector"
  | .selectorMismatch u => "service " ++ notificationServiceName ++ " selector " ++
      ",".intercalate u ++ " does not match job " ++ jobName ++ " pods"
  | .configMapUnread => "job " ++ jobName ++ " does not read configmap " ++ configMapName

/-- Checks that the Service selects the Job's pods and that the Job reads the harness config
map; the first fault found is the answer. -/
def checkHarness (service job : Json) : Except HarnessFault Unit :=
  let selector := Spec.selector service
  if selector.entries.isEmpty then .error .noSelector else
  let missing := unmatched selector (Spec.podLabels job)
  if !missing.isEmpty then .error (.selectorMismatch missing) else
  if (Spec.containers job).any fun c => (Spec.configMapsRead c).contains configMapName then
    .ok ()
  else .error .configMapUnread

end Provisioner
