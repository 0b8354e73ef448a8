import Provisioner.ApiServer.Client
import Provisioner.ApiServer.Discovery
import Provisioner.ApiServer.Request
import Provisioner.ApiServer.Response
import Provisioner.ClientError
import Provisioner.Cluster.Call
import Provisioner.Cluster.Inspect
import Provisioner.Cluster.Write
import Provisioner.CommandLine
import Provisioner.Config.Basic
import Provisioner.Config.Read
import Provisioner.DatabaseCluster
import Provisioner.Duration
import Provisioner.Error
import Provisioner.Http
import Provisioner.Http.Address
import Provisioner.Http.Endpoint
import Provisioner.Http.Target
import Provisioner.Http.Uri
import Provisioner.Http.Wire
import Provisioner.Install.Bootstrap
import Provisioner.Install.Run
import Provisioner.Install.State
import Provisioner.Install.Waits
import Provisioner.Invocation
import Provisioner.Json.Basic
import Provisioner.Json.Fields
import Provisioner.Json.Number
import Provisioner.Json.Printer
import Provisioner.Json.Reader
import Provisioner.Kube.Deployment
import Provisioner.Kube.Kind
import Provisioner.Kube.Node
import Provisioner.Kube.ObjectMeta
import Provisioner.Kube.Pod
import Provisioner.Kube.Secret
import Provisioner.Kube.ServerVersion
import Provisioner.Kube.Storage
import Provisioner.Kubeconfig
import Provisioner.Main
import Provisioner.Manifest.Decode
import Provisioner.Manifest.Resource
import Provisioner.Manifest.Source
import Provisioner.Monitoring.ApiKey
import Provisioner.Monitoring.Objects
import Provisioner.Monitoring.Provision
import Provisioner.Number.Binary64
import Provisioner.Number.Shortest
import Provisioner.Olm.InstallPlan
import Provisioner.Olm.OperatorGroup
import Provisioner.Olm.ServiceVersion
import Provisioner.Olm.Subscription
import Provisioner.Poll
import Provisioner.Program.Basic
import Provisioner.Program.Run
import Provisioner.Proofs.Cluster.Watch
import Provisioner.Proofs.Install.Approval
import Provisioner.Proofs.Install.Course
import Provisioner.Proofs.Install.Sequence
import Provisioner.Proofs.Install.Steps
import Provisioner.Proofs.Program.Runs
import Provisioner.Provision
import Provisioner.Retry
import Provisioner.Text.Base64
import Provisioner.Text.Blank
import Provisioner.Text.Glyph
import Provisioner.Text.Pem
import Provisioner.Text.Quoted
import Provisioner.Text.Search
import Provisioner.Text.Utf8
import Provisioner.Timestamp
import Provisioner.Yaml.Document
import Provisioner.Yaml.Node
import Provisioner.Yaml.Record
import Provisioner.Yaml.Scan11
import Provisioner.Yaml.Scan12
import Provisioner.Yaml.Token
import Provisioner.Yaml.Untyped
import Provisioner.Yaml.Value
import Provisioner.Proofs.Install.Outcome
import Provisioner.Proofs.Bootstrap.Stages
import Provisioner.Proofs.Install.Completion
import Provisioner.Proofs.Bootstrap.Calls
import Provisioner.Proofs.Program.Asks
import Provisioner.Proofs.Provision.Parts
import Provisioner.Proofs.CommandLine.Default
import Provisioner.Proofs.Provision.Calls
import Provisioner.Proofs.Json.Members
import Provisioner.Proofs.Text.Base64
import Provisioner.Proofs.Text.Utf8
import Provisioner.Proofs.Monitoring.Objects
import Provisioner.Proofs.Monitoring.Calls
import Provisioner.Proofs.Json.Replace
import Provisioner.Proofs.Monitoring.Confidential
import Provisioner.Proofs.Program.Interpret
import Provisioner.Proofs.ApiServer.Resources
import Provisioner.Proofs.Monitoring.Cleanup
import Provisioner.Proofs.CommandLine.Reading
import Provisioner.Proofs.Except
import Provisioner.Proofs.Yaml.Record
import Provisioner.Proofs.Config.Reading
import Provisioner.Proofs.CommandLine.Layers
import Provisioner.Proofs.Program.Bounds
import Provisioner.Proofs.Install.Bounds
import Provisioner.Proofs.Provision.Bounds
import Provisioner.Proofs.Program.Pauses
import Provisioner.Proofs.Install.Upgrade
import Provisioner.Proofs.Json.Records
import Provisioner.Proofs.CustomResource
import Provisioner.Proofs.ApiServer.Addresses
import Provisioner.Proofs.Program.Repetition
import Provisioner.Proofs.Program.Polling
import Provisioner.Proofs.Program.Retrying
import Provisioner.Proofs.Cluster.Looks
import Provisioner.Proofs.Install.Decisive
import Provisioner.Proofs.Install.Waiting
import Provisioner.Proofs.Monitoring.Files
import Provisioner.Proofs.Manifest.Documents
import Provisioner.Proofs.Json.Concatenated
import Provisioner.Proofs.Manifest.Concatenated
import Provisioner.Proofs.ApiServer.Manifests
import Provisioner.Proofs.Json.Fields
import Provisioner.Proofs.Json.MergePatch
import Provisioner.Proofs.ApiServer.Plans
import Provisioner.Proofs.Yaml.Conversion
import Provisioner.Proofs.Yaml.Keys
import Provisioner.Proofs.Yaml.Places
import Provisioner.Proofs.Bootstrap.Start
import Provisioner.Proofs.Cluster.Version
import Provisioner.Proofs.Cluster.Classification
import Provisioner.Proofs.Json.Entries
import Provisioner.Proofs.Cluster.DatabaseClusters
import Provisioner.Proofs.ApiServer.Absence
import Provisioner.Proofs.Monitoring.Endpoint
import Provisioner.Proofs.Cluster.Logs
import Provisioner.Proofs.Cluster.Workers
import Provisioner.Proofs.Manifest.ApiVersion
