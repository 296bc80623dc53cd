import Provisioner.Json.Value
import Provisioner.Json.Reader
import Provisioner.Json.Write
import Provisioner.Json.Decode
import Provisioner.Decimal.Shortest
import Provisioner.Decimal.Nearest
import Provisioner.Text.Classes
import Provisioner.Text.Blank
import Provisioner.Text.Utf8
import Provisioner.Text.Quote
import Provisioner.Path
import Provisioner.Peers
import Provisioner.Labels
import Provisioner.Journal
import Provisioner.Harness.Duration
import Provisioner.Harness.Strategy
import Provisioner.Harness.Params
import Provisioner.Harness.Objects
import Provisioner.Release.Request
import Provisioner.Release.Error
import Provisioner.Kube.ClientError
import Provisioner.Failure
import Provisioner.Kube.Object
import Provisioner.Kube.Response
import Provisioner.Host
import Provisioner.Platform
import Provisioner.Kube.Create
import Provisioner.Release.Install
import Provisioner.Monitoring.Releases
import Provisioner.Monitoring.Init
import Provisioner.Harness.Deploy
import Provisioner.Yaml.Token
import Provisioner.Yaml.Scanner
import Provisioner.Yaml.Parser
import Provisioner.Yaml.Document
import Provisioner.Yaml.Resolve
import Provisioner.Yaml.Emit
import Provisioner.Helm.Args
import Provisioner.Helm.Release
import Provisioner.Helm.Settings
import Provisioner.Helm.ChartFile
import Provisioner.Helm.Values
import Provisioner.Helm.Manager
import Provisioner.Scripted.ApiServer
import Provisioner.Scripted.PackageManager
import Provisioner.Scripted.Run
import Provisioner.Scripted.Machine
import Provisioner.Yaml.Tree
import Provisioner.Kube.Config
import Provisioner.Log.Filter
import Provisioner.Log.Line
import Provisioner.Telemetry.Endpoint
import Provisioner.Cli.Similar
import Provisioner.Cli.Spec
import Provisioner.Cli.Usage
import Provisioner.Cli.Parse
import Provisioner.Cli.Run
import Provisioner.Main
import Provisioner.Proofs.Duration
import Provisioner.Proofs.Peers
import Provisioner.Proofs.Recording
import Provisioner.Proofs.Harness
import Provisioner.Proofs.Deploy
import Provisioner.Proofs.Install
import Provisioner.Proofs.Monitoring
import Provisioner.Proofs.Labels
import Provisioner.Proofs.HarnessCheck
import Provisioner.Proofs.HarnessData
import Provisioner.Proofs.HelmHost
import Provisioner.Proofs.PeerTotal
import Provisioner.Proofs.ChartCache
import Provisioner.Proofs.Selector
import Provisioner.Proofs.Managed
