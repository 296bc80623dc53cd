import Provisioner.Json.Write
import Provisioner.Kube.Response

/-! An API server that answers from a script, one answer per request: create the object and
echo it, refuse it as existing, answer an error of a code and reason, or answer a raw body.
When the script runs out every request is created. -/

namespace Provisioner.Scripted

inductive ServerAnswer where
  | create
  | exists
  | error (code : Nat) (reason : String) (message : Option String)
  | raw (code : Nat) (body : String)
  deriving DecidableEq, Repr

structure SentRequest where
  method : String
  uri : String
  body : Json

def errorBody (code : Nat) (reason message : String) : String :=
  Json.write (.obj [("status", .str "Failure"), ("code", Json.ofNat code),
    ("message", .str message), ("reason", .str reason)])

def ServerAnswer.respond (body : String) : ServerAnswer → Kube.Response
  | .create => ⟨201, body.toUTF8⟩
  | .exists => ⟨409, (errorBody 409 "AlreadyExists" "stub AlreadyExists").toUTF8⟩
  | .error code reason message =>
    ⟨code, (errorBody code reason (message.getD ("stub " ++ reason))).toUTF8⟩
  | .raw code b => ⟨code, b.toUTF8⟩

end Provisioner.Scripted
