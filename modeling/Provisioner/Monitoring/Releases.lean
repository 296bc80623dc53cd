import Provisioner.Release.Request

/-! The two releases of the monitoring stack: the prometheus collector, without alertmanager
and node exporter and with its scrape interval, and the grafana dashboard, with its admin
password, fixed resources and the collector as its default data source. -/

namespace Provisioner

structure InitConfig where
  ns : String := "monitoring"
  createNamespace : Bool := false
  scrapeInterval : String := "10s"
  adminPassword : String := "admin123"

def prometheusChart : String × String × String := ("prometheus-community", "prometheus", "prometheus")

def grafanaChart : String × String × String := ("grafana", "grafana", "grafana")

def prometheusServerUrl : String := "http://" ++ prometheusChart.2.2 ++ "-server"

def requestOf (names : String × String × String) (ns : String) (values : Json) :
    ReleaseRequest :=
  ⟨names.1, names.2.1, names.2.2, ns, values⟩

def prometheusRequest (ns scrapeInterval : String) : ReleaseRequest :=
  requestOf prometheusChart ns (.obj [
    ("alertmanager", .obj [("enabled", .bool false)]),
    ("server", .obj [("global", .obj [("scrape_interval", .str scrapeInterval)])]),
    ("prometheus-node-exporter", .obj [("enabled", .bool false)])])

def grafanaRequest (ns adminPassword : String) : ReleaseRequest :=
  requestOf grafanaChart ns (.obj [
    ("adminPassword", .str adminPassword),
    ("resources", .obj [
      ("limits", .obj [("cpu", .str "512m"), ("memory", .str "512Mi")]),
      ("requests", .obj [("cpu", .str "256m"), ("memory", .str "256Mi")])]),
    ("datasources", .obj [("datasources.yaml", .obj [
      ("apiVersion", Json.ofNat 1),
      ("datasources", .arr [.obj [("name", .str "Prometheus"),
        ("url", .str prometheusServerUrl), ("type", .str "prometheus"),
        ("isDefault", .bool true)]])])])])

end Provisioner
