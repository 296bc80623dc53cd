import Provisioner.Cli.Run

/-! The `ucac` program on this machine: it reads the environment variables a run needs, runs
the command line with this machine's files, prints each line as it comes, and exits with the
run's code. Files are read, created and removed directly. Starting other programs is not
available here, so helm is never found; no network reaches a cluster either, so every request
fails to connect. -/

namespace Provisioner.Shell

def osError : IO.Error → OsError
  | .alreadyExists .. => .exists
  | .inappropriateType _ code _ => if code == 21 then .isDirectory else .notDirectory
  | .resourceVanished .. => .brokenPipe
  | _ => .noEntry

def attempt {α : Type} (x : IO α) : IO (Except OsError α) := do
  try return .ok (← x) catch e => return .error (osError e)

def machine : Host IO where
  removeDirAll p := attempt (IO.FS.removeDirAll p)
  createDirAll p := attempt (IO.FS.createDirAll p)
  readFile p := attempt (IO.FS.readBinFile p)
  run _ _ _ := pure (.error .noEntry)

def surroundings (env : List (String × String)) : Cli.Surroundings IO where
  env k := (env.find? (·.1 == k)).map (·.2)
  host := machine
  send _ := pure (.error ClientError.unreachable)
  out l := IO.println l
  err l := IO.eprintln l

end Provisioner.Shell

def main (args : List String) : IO UInt32 := do
  let env ← Provisioner.Cli.environmentNames.filterMapM fun k => do
    return (← IO.getEnv k).map fun v => (k, v)
  let code ← Provisioner.Cli.runCommandLine (Provisioner.Shell.surroundings env) args
  return code.toUInt32
