import Provisioner.Json.Decode
import Provisioner.Release.Request

/-! The release helm reports on standard output after an install, as JSON: its name, namespace,
version (the revision) and status. Other members are skipped. -/

namespace Provisioner.Helm

def releaseShape : Json.Shape :=
  .record "HelmRelease" [("name", .text, none), ("namespace", .text, none),
    ("version", .word (Nat.pow 2 32 - 1) "u32", none),
    ("info", .record "Info" [("status", .text, none)], none)]

def textOf : Option Json → String
  | some (.str s) => s
  | _ => ""

def parseRelease (stdout : ByteArray) : Except Json.ReadError Release :=
  (Json.decodeBytes releaseShape stdout).map fun j =>
    { name := textOf (j.get? "name"), ns := textOf (j.get? "namespace"),
      revision := match j.get? "version" with
        | some (.num (.nat n)) => n.toNat
        | _ => 0,
      status := textOf ((j.get? "info").bind (·.get? "status")) }

end Provisioner.Helm
