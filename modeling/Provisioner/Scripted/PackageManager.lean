import Provisioner.Json.Value
import Provisioner.Release.Request
import Provisioner.Release.Error
import Provisioner.Path

/-! A package manager that answers from a script, one answer per call whatever the call: the
default, a failure with a message, or a success with a value. The defaults: a chart of a
repository is at `charts/repo/chart`; a chart is named by the last component of its path, has
version `1.0.0` and no app version; a release is installed as asked, at revision 1, deployed. -/

namespace Provisioner.Scripted

inductive PackageAnswer where
  | default
  | err (message : String)
  | ok (value : Json)

inductive PackageCall where
  | locate (repo chart : String)
  | load (path : String)
  | install (chart : Chart) (request : ReleaseRequest)

def textMember? (j : Json) (key : String) : Option String :=
  match j.field? key with
  | some (.str s) => some s
  | _ => none

def locateAnswer (repo chart : String) : PackageAnswer → Except ReleaseError String
  | .default => .ok ("charts/" ++ repo ++ "/" ++ chart)
  | .err m => .error (.chartResolution (repo ++ "/" ++ chart) m)
  | .ok v => match v with
    | .str p => .ok p
    | _ => .ok ""

def loadAnswer (path : String) : PackageAnswer → Except ReleaseError Chart
  | .default => .ok ⟨path, ⟨(Path.fileName? path).getD "", "1.0.0", none⟩⟩
  | .err m => .error (.chartLoad path m)
  | .ok v => .ok ⟨path, ⟨(textMember? v "name").getD ((Path.fileName? path).getD ""),
      (textMember? v "version").getD "1.0.0", textMember? v "appVersion"⟩⟩

def installAnswer (r : ReleaseRequest) : PackageAnswer → Except ReleaseError Release
  | .default => .ok ⟨r.release, r.ns, 1, "deployed"⟩
  | .err m => .error (.install r.release r.ns m)
  | .ok v => .ok ⟨(textMember? v "name").getD r.release, (textMember? v "namespace").getD r.ns,
      (match v.field? "revision" with
        | some (.num (.nat n)) => n.toNat
        | _ => 1),
      (textMember? v "status").getD "deployed"⟩

end Provisioner.Scripted
