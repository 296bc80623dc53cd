import Provisioner.Monitoring.Releases
import Provisioner.Release.Install
import Provisioner.Kube.Create

/-! Installing the monitoring stack: make sure the namespace exists when asked to create it,
then install the collector and then the dashboard into it. Each stage starts only when the
ones before it succeeded; a collector installed before the dashboard failed stays. -/

namespace Provisioner

def monitoringTarget : String := "ucac_operator::monitoring"

/-- The two releases of the stack, collector first. -/
def InitConfig.requests (c : InitConfig) : List ReleaseRequest :=
  [prometheusRequest c.ns c.scrapeInterval, grafanaRequest c.ns c.adminPassword]

variable {m : Type → Type} [Monad m]

def installAll (p : Platform m) (scope : Scope) :
    List ReleaseRequest → ExceptT Failure m (List Release)
  | [] => return []
  | r :: rest => do
    let release ← (installRelease p scope r).adapt Failure.release
    p.emit scope ⟨.info, monitoringTarget, "Installed " ++ release.name ++
      " release to namespace " ++ release.ns, []⟩
    return release :: (← installAll p scope rest)

def InitConfig.span (c : InitConfig) : Span := ⟨"init", monitoringTarget, [("namespace", c.ns)]⟩

def init (p : Platform m) (c : InitConfig) : ExceptT Failure m (List Release) := do
  let scope := [c.span]
  let _ ← Kube.ensureNamespace p scope c.ns c.createNamespace
  installAll p scope c.requests

end Provisioner
