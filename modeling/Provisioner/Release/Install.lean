import Provisioner.Platform

/-! Installing a release: locate the chart, load it, install it, each step once and in this
order, the first failure being the answer. A release that already exists is never replaced
or removed. The steps run in a span named for the release. -/

namespace Provisioner

def releaseTarget : String := "ucac_operator::release"

def installSpan (r : ReleaseRequest) : Span :=
  ⟨"install", releaseTarget, [quotedField "release" r.release, quotedField "namespace" r.ns]⟩

variable {m : Type → Type} [Monad m]

/-- Locates, loads and installs the chart of a request. -/
def installRelease (p : Platform m) (outer : Scope) (r : ReleaseRequest) :
    ExceptT ReleaseError m Release := do
  let scope := outer ++ [installSpan r]
  let path ← ExceptT.mk (p.packages.locate scope r.repo r.chart)
  p.emit scope ⟨.debug, releaseTarget, "located chart",
    [("chart", r.chartRef), quotedField "path" path]⟩
  let chart ← ExceptT.mk (p.packages.load scope path)
  p.emit scope ⟨.debug, releaseTarget, "loaded chart",
    [("chart", chart.metadata.name), ("version", chart.metadata.version)]⟩
  let release ← ExceptT.mk (p.packages.install scope chart r)
  p.emit scope ⟨.info, releaseTarget, "installed release",
    [("release", release.name), ("namespace", release.ns),
      ("revision", toString release.revision), ("status", release.status)]⟩
  return release

end Provisioner
