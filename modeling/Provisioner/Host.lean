/-! What the helm package manager needs from the machine it runs on: removing and creating
directories, reading files, and running a program with arguments and, optionally, text on its
standard input. Failures of the machine are operating-system errors with their usual words.

A run either fails to start, or starts and then reports two things separately: whether
writing its input succeeded, and whether waiting for it succeeded, with its exit status and
output. Keeping them apart lets the package manager decide which failure it reports. -/

namespace Provisioner

inductive OsError where
  | noEntry
  | exists
  | notDirectory
  | isDirectory
  | brokenPipe
  | invalidText
  deriving DecidableEq, Repr

def OsError.text : OsError → String
  | .noEntry => "No such file or directory (os error 2)"
  | .exists => "File exists (os error 17)"
  | .notDirectory => "Not a directory (os error 20)"
  | .isDirectory => "Is a directory (os error 21)"
  | .brokenPipe => "Broken pipe (os error 32)"
  | .invalidText => "stream did not contain valid UTF-8"

structure Output where
  status : Nat
  stdout : ByteArray
  stderr : ByteArray

/-- A started program: how writing its input went, and how waiting for it went. -/
structure ChildRun where
  written : Except OsError Unit
  waited : Except OsError Output

structure Host (m : Type → Type) where
  removeDirAll : String → m (Except OsError Unit)
  createDirAll : String → m (Except OsError Unit)
  readFile : String → m (Except OsError ByteArray)
  run : String → List String → Option String → m (Except OsError ChildRun)

end Provisioner
