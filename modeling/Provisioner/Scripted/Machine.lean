import Provisioner.Host
import Provisioner.Path

/-! A scripted machine: a small file system of directories, files and dangling links, whose
operations behave as the usual system calls do, and a stand-in helm at one path. Each helm run
is recorded with its arguments and behaves as its override or its subcommand says: a pull
writes the chart below the directory it unpacks into, an install reads its standard input. -/

namespace Provisioner.Scripted

inductive Entry where
  | dir
  | file (bytes : ByteArray)
  | link

structure HelmBehaviour where
  exit : Nat
  stdout : ByteArray
  stderr : ByteArray
  chartYaml : Option ByteArray
  readsInput : Bool

def HelmBehaviour.quiet : HelmBehaviour := ⟨0, .empty, .empty, none, true⟩

/-- The machine: its file system, where the stand-in helm lives, how pulls and installs
behave, per-run overrides, and what the runs so far did. -/
structure Machine where
  entries : List (List String × Entry)
  helmAt : List String
  pull : HelmBehaviour
  install : HelmBehaviour
  overrides : List (Option HelmBehaviour)
  runs : List (List String)
  inputs : List (Option String)
  sawChartDir : Bool

def names (p : String) : List String :=
  (p.splitOn "/").filter fun s => s ≠ "" ∧ s ≠ "."

namespace Machine

def entry? (mc : Machine) (p : List String) : Option Entry :=
  (mc.entries.find? (·.1 == p)).map (·.2)

def parentsFault (mc : Machine) (p : List String) : Option OsError :=
  let above := (List.range (p.length - 1)).map fun k => p.take (k + 1)
  above.findSome? fun q =>
    match mc.entry? q with
    | some .dir => none
    | some (.file _) => some .notDirectory
    | some .link => some .noEntry
    | none => some .noEntry

def walk (mc : Machine) (p : List String) : Except OsError (Option Entry) :=
  match mc.parentsFault p with
  | some e => .error e
  | none => .ok (mc.entry? p)

def isDir (mc : Machine) (p : List String) : Bool :=
  match mc.walk p with
  | .ok (some .dir) => true
  | _ => false

def put (mc : Machine) (p : List String) (e : Entry) : Machine :=
  { mc with entries := (mc.entries.filter (·.1 != p)) ++ [(p, e)] }

def drop (mc : Machine) (p : List String) : Machine :=
  { mc with entries := mc.entries.filter fun (q, _) => !(p.isPrefixOf q) }

def removeDirAll (mc : Machine) (p : List String) : Except OsError Unit × Machine :=
  if p.isEmpty then (.error .noEntry, mc) else
  match mc.walk p with
  | .error e => (.error e, mc)
  | .ok none => (.error .noEntry, mc)
  | .ok (some (.file _)) => (.error .notDirectory, mc)
  | .ok (some _) => (.ok (), mc.drop p)

def makeDir (mc : Machine) (p : List String) : Except OsError Unit × Machine :=
  match mc.walk p with
  | .error e => (.error e, mc)
  | .ok (some _) => (.error .exists, mc)
  | .ok none => (.ok (), mc.put p .dir)

def createDirAll (mc : Machine) : List String → Except OsError Unit × Machine
  | [] => (.ok (), mc)
  | p@(_ :: _) =>
    match mc.makeDir p with
    | (.ok (), mc) => (.ok (), mc)
    | (.error .noEntry, mc) =>
      match createDirAll mc p.dropLast with
      | (.error e, mc) => (.error e, mc)
      | (.ok (), mc) =>
        match mc.makeDir p with
        | (.ok (), mc) => (.ok (), mc)
        | (.error e, mc) => if mc.isDir p then (.ok (), mc) else (.error e, mc)
    | (.error e, mc) => if mc.isDir p then (.ok (), mc) else (.error e, mc)
termination_by p => p.length
decreasing_by all_goals (subst_vars; simp [List.length_dropLast])

def readFile (mc : Machine) (p : List String) : Except OsError ByteArray :=
  match mc.walk p with
  | .error e => .error e
  | .ok (some (.file b)) => .ok b
  | .ok (some .dir) => .error .isDirectory
  | .ok _ => .error .noEntry

def commandArgs : List String → List String
  | "--kube-context" :: _ :: rest => rest
  | args => args

def flagValue (flag : String) : List String → Option String
  | f :: v :: rest => if f == flag then some v else flagValue flag (v :: rest)
  | _ => none

def afterSlash (ref : String) : String :=
  match ref.splitOn "/" with
  | _ :: rest@(_ :: _) => "/".intercalate rest
  | _ => ref

def findsHelm (mc : Machine) (program : String) : Bool :=
  program.contains '/' && names program == mc.helmAt

def runHelm (mc : Machine) (program : String) (args : List String) (input : Option String) :
    Except OsError ChildRun × Machine :=
  if !mc.findsHelm program then (.error .noEntry, mc) else
  let cmd := commandArgs args
  let isPull := cmd.head? == some "pull"
  let base := if isPull then mc.pull else mc.install
  let b := match mc.overrides[mc.runs.length]? with
    | some (some o) => { o with readsInput := mc.install.readsInput }
    | _ => base
  let mc := { mc with runs := mc.runs ++ [args] }
  let mc := if isPull then
      let dest := names ((flagValue "--untardir" cmd).getD "")
      let dir := dest ++ names (afterSlash ((cmd.drop 1).head?.getD ""))
      let mc := if mc.isDir dir then { mc with sawChartDir := true } else mc
      match b.chartYaml with
      | some bytes => (mc.createDirAll dir).2.put (dir ++ ["Chart.yaml"]) (.file bytes)
      | none => mc
    else mc
  let read := if b.readsInput then input else none
  let mc := { mc with inputs := mc.inputs ++ [read] }
  let written : Except OsError Unit :=
    if input.isSome && !b.readsInput then .error .brokenPipe else .ok ()
  (.ok ⟨written, .ok ⟨b.exit, b.stdout, b.stderr⟩⟩, mc)

def hostVia {m : Type → Type} [Monad m] (read : m Machine) (write : Machine → m Unit) : Host m where
  removeDirAll p := do
    let (r, mc) := (← read).removeDirAll (names p)
    write mc
    return r
  createDirAll p := do
    let (r, mc) := (← read).createDirAll (names p)
    write mc
    return r
  readFile p := do return (← read).readFile (names p)
  run program args input := do
    let (r, mc) := (← read).runHelm program args input
    write mc
    return r

end Machine

end Provisioner.Scripted
