/-! Why a release could not be installed: its chart could not be located, its chart could not
be loaded, or the installation itself failed. The first two are failures to resolve the
chart. -/

namespace Provisioner

/-- A failure of one step of installing a release. -/
inductive ReleaseError where
  | chartResolution (chart message : String)
  | chartLoad (path message : String)
  | install (release ns message : String)
  deriving DecidableEq, Repr

namespace ReleaseError

def text : ReleaseError → String
  | .chartResolution chart m => "chart " ++ chart ++ " could not be located: " ++ m
  | .chartLoad path m => "chart at " ++ path ++ " could not be loaded: " ++ m
  | .install release ns m =>
    "release " ++ release ++ " could not be installed into namespace " ++ ns ++ ": " ++ m

def isResolution : ReleaseError → Bool
  | .chartResolution .. | .chartLoad .. => true
  | .install .. => false

end ReleaseError

end Provisioner
