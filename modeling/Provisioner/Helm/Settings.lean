/-! The settings every helm run of a process shares: the binary, the kube context if one is
chosen, and the directory charts are pulled into, by default `ucac-charts` in the temporary
directory. -/

namespace Provisioner.Helm

def cacheDirName : String := "ucac-charts"

structure Settings where
  binary : String := "helm"
  kubeContext : Option String := none
  cacheDir : String

def Settings.defaultIn (tempDir : String) : Settings :=
  { cacheDir := if tempDir.endsWith "/" then tempDir ++ cacheDirName
      else tempDir ++ "/" ++ cacheDirName }

end Provisioner.Helm
