/-! The command lines given to helm: an optional kube context first, then the subcommand. A
chart is pulled and unpacked into a directory; a chart is installed as a release into a
namespace with its values read from standard input and the release written back as JSON. -/

namespace Provisioner.Helm

def contextArgs : Option String → List String
  | some ctx => ["--kube-context", ctx]
  | none => []

def pullArgs (context : Option String) (chartRef dest : String) : List String :=
  contextArgs context ++ ["pull", chartRef, "--untar", "--untardir", dest]

def installArgs (context : Option String) (release chartPath ns : String) : List String :=
  contextArgs context ++
    ["install", release, chartPath, "--namespace", ns, "--values", "-", "--output", "json"]

end Provisioner.Helm
