/-! Slash-separated paths as text. Joining a relative path adds it after a separator, and
joining an absolute path replaces the base. A path's components drop empty pieces and `.`
pieces after the first; its file name is its last component when that is a name. -/

namespace Provisioner.Path

def isAbsolute (p : String) : Bool := p.startsWith "/"

/-- `base` followed by `p`: `p` itself when absolute, else after a separator unless `base` is
empty or already ends in one. -/
def join (base p : String) : String :=
  if isAbsolute p then p
  else if base.isEmpty || base.endsWith "/" then base ++ p
  else base ++ "/" ++ p

def components (p : String) : List String :=
  let pieces := p.splitOn "/"
  let root := if isAbsolute p then ["/"] else []
  let lead := match pieces with
    | "." :: _ :: _ => ["."]
    | ["."] => ["."]
    | _ => []
  root ++ lead ++ pieces.filter fun s => s ≠ "" ∧ s ≠ "."

def fileName? (p : String) : Option String :=
  match (components p).getLast? with
  | some c => if c = "/" ∨ c = "." ∨ c = ".." then none else some c
  | none => none

end Provisioner.Path
