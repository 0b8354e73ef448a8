import Provisioner.Json.Fields
import Provisioner.Monitoring.ApiKey
import Provisioner.Poll
import Provisioner.Retry
/-!
# Configuration

What is installed where, and how long it may take.  Every part has a default.  The channels of the
operators can be overridden from the environment, where an empty variable counts as one that is not
set.
-/

namespace Provisioner

/-- The channel that each operator follows. -/
structure Channels where
  victoriaMetrics : String := "stable-v0"
  pxc : String := "stable-v1"
  psmdb : String := "stable-v1"
  dbaas : String := "stable-v0"
deriving DecidableEq

/-- What is set up after the operators. -/
structure MonitoringConfig where
  /-- Whether monitoring is put in place at all. -/
  enabled : Bool := true
  /-- The server that the agent writes to. -/
  server : Monitoring.Server := {}
deriving DecidableEq

/-- The configuration of a run. -/
structure Config where
  /-- File that says how to reach the cluster; without one it is looked for. -/
  kubeconfig : Option String := none
  /-- Whether the operator lifecycle manager is installed first. -/
  installOlm : Bool := true
  /-- Directory of the manifests. -/
  manifestsDir : String := "/manifests"
  /-- Namespace of the operators. -/
  ns : String := "default"
  /-- Operator group in that namespace. -/
  operatorGroup : String := "percona-operators-group"
  /-- Catalog of the operators. -/
  catalogSource : String := "percona-dbaas-catalog"
  /-- Namespace of the catalog and of the operator lifecycle manager. -/
  catalogSourceNamespace : String := "olm"
  /-- Whether to wait for each operator until it is installed. -/
  waitForCompletion : Bool := false
  channels : Channels := {}
  monitoring : MonitoringConfig := {}
  /-- How long to wait for each part of an install. -/
  poll : Poll := .standard
  /-- How often to apply a manifest of the monitoring stack. -/
  retry : Retry := .standard
deriving DecidableEq

/-! ## Overrides from the environment -/

/-- The variables of a process, by name. -/
abbrev Environment : Type := String → Option String

/-- The value of a variable that is set and not empty. -/
def Environment.nonempty? (env : Environment) (name : String) : Option String :=
  (env name).filter (· ≠ "")

/-- Channels overridden by the variables that are set. -/
def Channels.overridden (channels : Channels) (env : Environment) : Channels where
  victoriaMetrics := (env.nonempty? "DBAAS_VM_OP_CHANNEL").getD channels.victoriaMetrics
  pxc := (env.nonempty? "DBAAS_PXC_OP_CHANNEL").getD channels.pxc
  psmdb := (env.nonempty? "DBAAS_PSMDB_OP_CHANNEL").getD channels.psmdb
  dbaas := (env.nonempty? "DBAAS_DBAAS_OP_CHANNEL").getD channels.dbaas

/-- A configuration with its channels overridden. -/
def Config.overridden (config : Config) (env : Environment) : Config :=
  { config with channels := config.channels.overridden env }

/-- The defaults with the channels overridden. -/
def Config.ofEnvironment (env : Environment) : Config := ({} : Config).overridden env

/-! ## Configurations as JSON -/

open Json (member)

/-- Write the channels. -/
def Channels.encode (c : Channels) : Json :=
  Json.ofMembers (member "victoria_metrics" (.string c.victoriaMetrics) ++
    member "pxc" (.string c.pxc) ++ member "psmdb" (.string c.psmdb) ++
    member "dbaas" (.string c.dbaas))

/-- Write a server and its login. -/
def encodeServer (s : Monitoring.Server) : Json :=
  Json.ofMembers (member "endpoint" (.string s.endpoint) ++
    member "username" (.string s.username) ++ member "password" (.string s.password))

/-- Write a length of time as whole seconds. -/
def encodeSeconds (d : Duration) : Json := .int d.seconds

/-- Write a configuration. -/
def Config.encode (c : Config) : Json :=
  Json.ofMembers (
    member "kubeconfig" ((c.kubeconfig.map Json.string).getD .null) ++
    member "install_olm" (.bool c.installOlm) ++
    member "manifests_dir" (.string c.manifestsDir) ++
    member "namespace" (.string c.ns) ++
    member "operator_group" (.string c.operatorGroup) ++
    member "catalog_source" (.string c.catalogSource) ++
    member "catalog_source_namespace" (.string c.catalogSourceNamespace) ++
    member "wait_for_completion" (.bool c.waitForCompletion) ++
    member "channels" c.channels.encode ++
    member "monitoring" (Json.ofMembers (member "enabled" (.bool c.monitoring.enabled) ++
      member "pmm" (encodeServer c.monitoring.server))) ++
    member "poll" (Json.ofMembers (member "interval" (encodeSeconds c.poll.interval) ++
      member "timeout" (encodeSeconds c.poll.timeout))) ++
    member "retry" (Json.ofMembers (member "max_attempts" (.int c.retry.maxAttempts.toNat) ++
      member "delay" (encodeSeconds c.retry.delay))))

end Provisioner
