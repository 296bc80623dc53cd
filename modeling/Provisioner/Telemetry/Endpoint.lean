/-! Whether a text is a URI a telemetry exporter can be pointed at, and the words of why not.

A URI is at most 65534 bytes and not empty. `/` and `*` alone are paths; any other single
character must be an authority. A text starting with `/` is a path and query. Otherwise it may
start with a scheme: `http://` or `https://` in any case, or letters, digits, `+`, `-` and `.`
followed by `://` (the scheme at most 64 bytes). The authority follows, up to the first `/`,
`?` or `#`: it holds URI characters only, at most one port colon outside brackets, balanced
brackets, no `%` outside the user part, and something after an `@`. Without a scheme the
whole text must be the authority; with one the authority must not be empty, and the rest must
be a valid path and query. -/

namespace Provisioner.Telemetry

inductive UriFault where
  | character
  | authority
  | format
  | tooLong
  | empty
  | schemeTooLong
  deriving DecidableEq, Repr

def UriFault.text : UriFault → String
  | .character => "invalid uri character"
  | .authority => "invalid authority"
  | .format => "invalid format"
  | .tooLong => "uri too long"
  | .empty => "empty string"
  | .schemeTooLong => "scheme too long"

def maxUriBytes : Nat := 65534

def maxSchemeBytes : Nat := 64

def isUriByte (b : Nat) : Bool :=
  (b ≥ 0x30 && b ≤ 0x39) || (b ≥ 0x41 && b ≤ 0x5A) || (b ≥ 0x61 && b ≤ 0x7A) ||
  [0x21, 0x23, 0x24, 0x26, 0x27, 0x28, 0x29, 0x2A, 0x2B, 0x2C, 0x2D, 0x2E, 0x2F, 0x3A, 0x3B,
    0x3D, 0x3F, 0x40, 0x5B, 0x5D, 0x5F, 0x7E].contains b

def isSchemeByte (b : Nat) : Bool :=
  (b ≥ 0x30 && b ≤ 0x39) || (b ≥ 0x41 && b ≤ 0x5A) || (b ≥ 0x61 && b ≤ 0x7A) ||
  b == 0x2B || b == 0x2D || b == 0x2E

def startsWithFolded (bs : List Nat) (lead : String) : Bool :=
  let lower (b : Nat) : Nat := if b ≥ 0x41 && b ≤ 0x5A then b + 32 else b
  let p := lead.toUTF8.toList.map (·.toNat)
  bs.length ≥ p.length && (bs.take p.length).map lower == p

def schemeLength : List Nat → Except UriFault (Option Nat)
  | bs =>
    if startsWithFolded bs "http://" then .ok (some 4)
    else if startsWithFolded bs "https://" then .ok (some 5)
    else if bs.length > 3 then
      match (bs.zipIdx.find? fun (b, _) => !isSchemeByte b) with
      | some (0x3A, i) =>
        if bs.length < i + 3 then .ok none
        else if (bs.drop (i + 1)).take 2 != [0x2F, 0x2F] then .ok none
        else if i > maxSchemeBytes then .error .schemeTooLong
        else .ok (some i)
      | _ => .ok none
    else .ok none

structure AuthorityScan where
  colons : Nat := 0
  opened : Bool := false
  closed : Bool := false
  percent : Bool := false
  at_ : Option Nat := none

def AuthorityScan.step (s : AuthorityScan) (bi : Nat × Nat) : Except UriFault AuthorityScan :=
  let (b, i) := bi
  if b == 0x3A then
    if s.colons ≥ 8 then throw .authority else pure { s with colons := s.colons + 1 }
  else if b == 0x5B then
    if s.percent || s.opened then throw .authority else pure { s with opened := true }
  else if b == 0x5D then
    if !s.opened || s.closed then throw .authority
    else pure { s with closed := true, colons := 0, percent := false }
  else if b == 0x40 then pure { s with at_ := some i, colons := 0, percent := false }
  else if b == 0x25 then pure { s with percent := true }
  else if isUriByte b then pure s
  else throw .character

def authorityLength (bs : List Nat) : Except UriFault Nat := do
  let stop := (bs.findIdx? fun b => b == 0x2F || b == 0x3F || b == 0x23).getD bs.length
  let scan ← (bs.take stop).zipIdx.foldlM AuthorityScan.step {}
  if scan.opened != scan.closed then throw .authority
  if scan.colons > 1 then throw .authority
  if stop > 0 && scan.at_ == some (stop - 1) then throw .authority
  if scan.percent then throw .authority
  return stop

def isPathByte (b : Nat) : Bool :=
  b == 0x21 || (b ≥ 0x24 && b ≤ 0x3B) || b == 0x3D || (b ≥ 0x40 && b ≤ 0x5F) ||
  (b ≥ 0x61 && b ≤ 0x7A) || b == 0x7C || b == 0x7E || b == 0x22 || b == 0x7B || b == 0x7D

def isQueryByte (b : Nat) : Bool :=
  b == 0x21 || (b ≥ 0x24 && b ≤ 0x3B) || b == 0x3D || (b ≥ 0x3F && b ≤ 0x7E)

def checkPath (bs : List Nat) : Except UriFault Unit :=
  let path := bs.takeWhile fun b => b != 0x3F && b != 0x23
  let rest := bs.drop path.length
  if !path.all isPathByte then .error .character
  else match rest with
    | 0x3F :: query =>
      if (query.takeWhile (· != 0x23)).all isQueryByte then .ok () else .error .character
    | _ => .ok ()

def checkUri (s : String) : Except UriFault Unit := do
  let bs := s.toUTF8.toList.map (·.toNat)
  if bs.length > maxUriBytes then throw .tooLong
  match bs with
  | [] => throw .empty
  | [b] =>
    if b == 0x2F || b == 0x2A then return ()
    let n ← authorityLength bs
    if n != 1 then throw .character
  | b :: _ =>
    if b == 0x2F then return (← checkPath bs)
    let scheme ← schemeLength bs
    let rest := match scheme with
      | some n => bs.drop (n + 3)
      | none => bs
    let n ← authorityLength rest
    match scheme with
    | none => if n != rest.length then throw .format
    | some _ =>
      if n == 0 then throw .format
      checkPath (rest.drop n)

def refusal (f : UriFault) : String :=
  "Exporter otlp encountered the following error(s): invalid URI " ++ f.text

def unsentSpans : String :=
  "OpenTelemetry trace error occurred. Exporter otlp encountered the following error(s): " ++
  "the grpc server returns error (The service is currently unavailable): , detailed error " ++
  "message: error trying to connect: tcp connect error: Network is unreachable (os error 101)"

def metricsShutdown : String := "Metrics error: [Other(\"reader is shut down\")]"

end Provisioner.Telemetry
