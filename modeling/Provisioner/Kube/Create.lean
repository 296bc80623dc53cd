import Provisioner.Platform
import Provisioner.Failure

/-! Creating objects when they may already exist. A create whose answer is an API error of
reason `AlreadyExists` counts as success and leaves the existing object as it is; any other
failure stops the workflow with a `create` failure naming the object. A namespace is created
only when asked; otherwise it is assumed to exist and nothing is sent. -/

namespace Provisioner.Kube

inductive CreateOutcome where
  | created
  | alreadyExists
  deriving DecidableEq, Repr

def CreateOutcome.text : CreateOutcome → String
  | .created => "Created"
  | .alreadyExists => "AlreadyExists"

def createTarget : String := "ucac_operator::utils"

def objectFields (o : KubeObject) : List (String × String) :=
  [("kind", o.kind.name), ("namespace", o.nsText), ("name", o.name)]

def createFailure (o : KubeObject) (e : ClientError) : Failure :=
  .create o.kind.name o.nsText o.name e

variable {m : Type → Type} [Monad m]

/-- Posts an object; an object that already exists counts as success. -/
def createOrExists (p : Platform m) (scope : Scope) (o : KubeObject) :
    ExceptT Failure m CreateOutcome := do
  match ← p.post scope o with
  | .ok () =>
    p.emit scope ⟨.info, createTarget, "created", objectFields o⟩
    return .created
  | .error (.api a) =>
    if a.reason = "AlreadyExists" then
      p.emit scope ⟨.debug, createTarget, "already exists",
        objectFields o ++ [("message", a.message)]⟩
      p.emit scope ⟨.info, createTarget, "already exists, leaving as is", objectFields o⟩
      return .alreadyExists
    else throw (createFailure o (.api a))
  | .error e => throw (createFailure o e)

/-- Creates a namespace when `create` holds; otherwise assumes it exists and sends nothing. -/
def ensureNamespace (p : Platform m) (scope : Scope) (name : String) (create : Bool) :
    ExceptT Failure m (Option CreateOutcome) :=
  if create then some <$> createOrExists p scope (namespaceObject name)
  else do
    p.emit scope ⟨.debug, "ucac_operator::namespace", "assuming namespace exists",
      [quotedField "namespace" name]⟩
    return none

end Provisioner.Kube
