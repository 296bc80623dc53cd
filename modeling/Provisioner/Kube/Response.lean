import Provisioner.Json.Decode
import Provisioner.Kube.Object
import Provisioner.Kube.ClientError

/-! How a client reads the API server's answer to a create. A status of 400 to 599 is an
error: its body is read as an error answer, and a body that is not one becomes an answer of
its own that quotes the body. Any other status carries the created object, whose body must read
as an object of the posted kind. -/

namespace Provisioner.Kube

structure Response where
  code : Nat
  body : ByteArray

def reasonPhrase : Nat → Option String
  | 100 => some "Continue" | 101 => some "Switching Protocols" | 102 => some "Processing"
  | 200 => some "OK" | 201 => some "Created" | 202 => some "Accepted"
  | 203 => some "Non Authoritative Information" | 204 => some "No Content"
  | 205 => some "Reset Content" | 206 => some "Partial Content" | 207 => some "Multi-Status"
  | 208 => some "Already Reported" | 226 => some "IM Used"
  | 300 => some "Multiple Choices" | 301 => some "Moved Permanently" | 302 => some "Found"
  | 303 => some "See Other" | 304 => some "Not Modified" | 305 => some "Use Proxy"
  | 307 => some "Temporary Redirect" | 308 => some "Permanent Redirect"
  | 400 => some "Bad Request" | 401 => some "Unauthorized" | 402 => some "Payment Required"
  | 403 => some "Forbidden" | 404 => some "Not Found" | 405 => some "Method Not Allowed"
  | 406 => some "Not Acceptable" | 407 => some "Proxy Authentication Required"
  | 408 => some "Request Timeout" | 409 => some "Conflict" | 410 => some "Gone"
  | 411 => some "Length Required" | 412 => some "Precondition Failed"
  | 413 => some "Payload Too Large" | 414 => some "URI Too Long"
  | 415 => some "Unsupported Media Type" | 416 => some "Range Not Satisfiable"
  | 417 => some "Expectation Failed" | 418 => some "I'm a teapot"
  | 421 => some "Misdirected Request" | 422 => some "Unprocessable Entity" | 423 => some "Locked"
  | 424 => some "Failed Dependency" | 426 => some "Upgrade Required"
  | 428 => some "Precondition Required" | 429 => some "Too Many Requests"
  | 431 => some "Request Header Fields Too Large" | 451 => some "Unavailable For Legal Reasons"
  | 500 => some "Internal Server Error" | 501 => some "Not Implemented"
  | 502 => some "Bad Gateway" | 503 => some "Service Unavailable" | 504 => some "Gateway Timeout"
  | 505 => some "HTTP Version Not Supported" | 506 => some "Variant Also Negotiates"
  | 507 => some "Insufficient Storage" | 508 => some "Loop Detected" | 510 => some "Not Extended"
  | 511 => some "Network Authentication Required"
  | _ => none

def statusLine (code : Nat) : String :=
  toString code ++ " " ++ (reasonPhrase code).getD "<unknown status code>"

def errorShape : Json.Shape :=
  .record "ErrorResponse" [("status", .text, none), ("message", .text, some (.str "")),
    ("reason", .text, some (.str "")), ("code", .word 65535 "u16", none)]

def errorAnswer (r : Response) : ErrorAnswer :=
  match Json.decodeBytes errorShape r.body with
  | .ok j => ⟨textOf (j.get? "status"), textOf (j.get? "message"), textOf (j.get? "reason"),
      match j.get? "code" with
      | some (.num (.nat n)) => n.toNat
      | _ => 0⟩
  | .error _ =>
    ⟨statusLine r.code, Text.quote (String.fromUTF8? r.body |>.getD ""),
      "Failed to parse error data", r.code⟩
where
  textOf : Option Json → String
    | some (.str s) => s
    | _ => ""

def agrees (j : Json) (key expected : String) : Bool :=
  match j.get? key with
  | none => true
  | some (.str s) => s == expected
  | some _ => false

def readsAs (kind : Kind) (body : ByteArray) : Bool :=
  match Json.parseBytes body with
  | .ok (.obj ms) =>
    let j := Json.obj ms
    agrees j "apiVersion" kind.apiVersion && agrees j "kind" kind.name
  | _ => false

def Response.result (kind : Kind) (r : Response) : Except ClientError Unit :=
  if 400 ≤ r.code ∧ r.code < 600 then .error (.api (errorAnswer r))
  else if readsAs kind r.body then .ok ()
  else .error .undecodable

end Provisioner.Kube
