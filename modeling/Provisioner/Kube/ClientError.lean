import Provisioner.Text.Quote

/-! Failures of a request to the Kubernetes API: an error answer of the server, an answer that
does not decode, or no connection. -/

namespace Provisioner

structure ErrorAnswer where
  status : String
  message : String
  reason : String
  code : Nat
  deriving DecidableEq, Repr

def ErrorAnswer.text (a : ErrorAnswer) : String := a.message ++ ": " ++ a.reason

def ErrorAnswer.record (a : ErrorAnswer) : String :=
  "ErrorResponse \x7b status: " ++ Text.quote a.status ++ ", message: " ++ Text.quote a.message ++
    ", reason: " ++ Text.quote a.reason ++ ", code: " ++ toString a.code ++ " \x7d"

/-- A failed request to the API server. -/
inductive ClientError where
  | api (answer : ErrorAnswer)
  | undecodable
  | connection (detail : String)
  deriving DecidableEq, Repr

def ClientError.text : ClientError → String
  | .api a => "ApiError: " ++ a.text ++ " (" ++ a.record ++ ")"
  | .undecodable => "Error deserializing response"
  | .connection d => "HyperError: " ++ d

def ClientError.unreachable : ClientError :=
  .connection "error trying to connect: tcp connect error: Network is unreachable (os error 101)"

end Provisioner
