import Provisioner.Harness.Objects
import Provisioner.Kube.Create

/-! Deploying the performance harness: check that its Service and Job fit together, make sure
the namespace exists when asked to create it, then create the notification Service, the
ConfigMap with the harness parameters and the Job, in this order. Objects that exist already
are left as they are; a failure stops the deployment and leaves earlier objects in place. -/

namespace Provisioner

structure PerformanceConfig where
  ns : String := "default"
  createNamespace : Bool := false
  image : ImageConfig := {}
  harness : HarnessParams := {}

structure PerformanceOutcome where
  service : Kube.CreateOutcome
  configMap : Kube.CreateOutcome
  job : Kube.CreateOutcome
  deriving DecidableEq, Repr

/-- The objects of a deployment, in the order they are created. -/
def PerformanceConfig.objects (c : PerformanceConfig) : List Kube.KubeObject :=
  [Kube.serviceObject c.ns notificationServiceName serviceSpec projectLabels,
    Kube.configMapObject c.ns configMapName c.harness.data projectLabels,
    Kube.jobObject c.ns jobName (jobSpec c.image) harnessLabels]

def performanceTarget : String := "ucac_operator::performance"

def PerformanceConfig.span (c : PerformanceConfig) : Span :=
  ⟨"performance", performanceTarget, [("namespace", c.ns)]⟩

variable {m : Type → Type} [Monad m]

def performance (p : Platform m) (c : PerformanceConfig) :
    ExceptT Failure m PerformanceOutcome := do
  let scope := [c.span]
  match checkHarness serviceSpec (jobSpec c.image) with
  | .error f => throw (.invalidHarness f.message)
  | .ok () => pure ()
  let _ ← Kube.ensureNamespace p scope c.ns c.createNamespace
  p.emit scope ⟨.info, performanceTarget, "deploying performance test",
    [("peers", c.harness.peers.text)]⟩
  let service ← Kube.createOrExists p scope
    (Kube.serviceObject c.ns notificationServiceName serviceSpec projectLabels)
  let configMap ← Kube.createOrExists p scope
    (Kube.configMapObject c.ns configMapName c.harness.data projectLabels)
  let job ← Kube.createOrExists p scope
    (Kube.jobObject c.ns jobName (jobSpec c.image) harnessLabels)
  return ⟨service, configMap, job⟩

end Provisioner
