import Provisioner.Json.Value

/-! Releases of charts: what is asked for (a chart of a repository, a release name, a
namespace and values), the chart found, and the release installed. -/

namespace Provisioner

structure ReleaseRequest where
  repo : String
  chart : String
  release : String
  ns : String
  values : Json

def ReleaseRequest.chartRef (r : ReleaseRequest) : String := r.repo ++ "/" ++ r.chart

structure ChartMetadata where
  name : String
  version : String
  appVersion : Option String

structure Chart where
  path : String
  metadata : ChartMetadata

structure Release where
  name : String
  ns : String
  revision : Nat
  status : String

end Provisioner
