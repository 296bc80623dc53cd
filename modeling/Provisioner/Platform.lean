import Provisioner.Journal
import Provisioner.Kube.Object
import Provisioner.Release.Request
import Provisioner.Release.Error
import Provisioner.Kube.ClientError

/-! What the workflows need from the world, as operations in a monad: a package manager that
locates, loads and installs charts, a cluster that accepts posted objects, and a journal that
records events. Each operation learns the scope it runs in, so that what it reports is placed
there. A law about a workflow holds for every platform, or for a class of platforms that a
script describes. -/

namespace Provisioner

structure PackageManager (m : Type → Type) where
  locate : Scope → String → String → m (Except ReleaseError String)
  load : Scope → String → m (Except ReleaseError Chart)
  install : Scope → Chart → ReleaseRequest → m (Except ReleaseError Release)

/-- The world the workflows run against. -/
structure Platform (m : Type → Type) where
  post : Scope → Kube.KubeObject → m (Except ClientError Unit)
  packages : PackageManager m
  emit : Scope → Event → m Unit

end Provisioner
