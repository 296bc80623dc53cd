import Provisioner.Release.Error
import Provisioner.Kube.ClientError

/-! The failures of a command and their exit codes: an invalid harness exits with 2, a release
whose chart cannot be resolved with 3, every other failure with 4. -/

namespace Provisioner

def exitInvalid : Nat := 2

def exitResolution : Nat := 3

def exitTransaction : Nat := 4

/-- Why a command failed. -/
inductive Failure where
  | release (e : ReleaseError)
  | create (kind ns name : String) (cause : ClientError)
  | kube (detail : String)
  | kubeconfig (detail : String)
  | invalidHarness (detail : String)
  deriving DecidableEq, Repr

namespace Failure

def text : Failure → String
  | .release e => "Release error: " ++ e.text
  | .create kind ns name cause =>
    "failed to create " ++ kind ++ " " ++ ns ++ "/" ++ name ++ ": " ++ cause.text
  | .kube d => "Kube error: " ++ d
  | .kubeconfig d => "Kubeconfig error: " ++ d
  | .invalidHarness d => "invalid harness: " ++ d

def exitCode : Failure → Nat
  | .invalidHarness _ => exitInvalid
  | .release e => if e.isResolution then exitResolution else exitTransaction
  | _ => exitTransaction

end Failure

end Provisioner
