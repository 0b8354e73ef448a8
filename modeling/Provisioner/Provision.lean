import Provisioner.Config.Basic
import Provisioner.Install.Bootstrap
import Provisioner.Monitoring.ApiKey
import Provisioner.Monitoring.Provision
/-!
# Provisioning a cluster

One pass over a cluster: the operator lifecycle manager if it is wanted, then the operators in a
fixed order, then monitoring if it is wanted.  The first failure ends the pass and nothing is
rolled back.
-/

namespace Provisioner

open Manifest (Source)

namespace Config

/-- The operators in the order in which they are installed, with their channels. -/
def operators (config : Config) : List (String × String) := [
  ("victoriametrics-operator", config.channels.victoriaMetrics),
  ("percona-xtradb-cluster-operator", config.channels.pxc),
  ("percona-server-mongodb-operator", config.channels.psmdb),
  ("dbaas-operator", config.channels.dbaas)]

/-- What to install, in order. -/
def operatorRequests (config : Config) : List InstallRequest :=
  config.operators.map fun (name, channel) => {
    ns := config.ns, name, operatorGroup := config.operatorGroup,
    catalogSource := config.catalogSource,
    catalogSourceNamespace := config.catalogSourceNamespace, channel,
    waitForCompletion := config.waitForCompletion }

/-- Where and how monitoring is put in place. -/
def monitoringSettings (config : Config) : Monitoring.Settings := ⟨config.ns, config.retry⟩

end Config

namespace Provision

/-- The random numbers of a run. -/
structure Numbers where
  /-- In the name of the account on the monitoring server. -/
  account : UInt32
  /-- In the name of the secret. -/
  secret : UInt64

/-- The name of the account of a random number. -/
def accountName (number : UInt32) : String := "dbaas-service-account-" ++ toString number.toNat

/-- Make a key on the monitoring server and put monitoring in place with it; the name of the
secret. -/
def monitoring (config : Config) (source : Source) (numbers : Numbers) : Work String :=
  let server := config.monitoring.server
  if server.endpoint = "" then .fail (.config "monitoring.pmm.endpoint is required")
  else do
    let account := accountName numbers.account
    let key ← Monitoring.createKey server account none
    Monitoring.provision config.monitoringSettings source numbers.secret account key server.endpoint

/-- Install operators one after the other. -/
def installAll (poll : Poll) : List InstallRequest → Work Unit
  | [] => return ()
  | request :: rest => do
    Install.installOperator poll request
    installAll poll rest

/-- Provision the cluster. -/
def cluster (config : Config) (source : Source) (numbers : Numbers) : Work Unit := do
  if config.installOlm then
    Install.installOlm config.poll source config.catalogSourceNamespace
  installAll config.poll config.operatorRequests
  if config.monitoring.enabled then
    let _ ← monitoring config source numbers

/-- Approve the pending plan of an operator that is installed. -/
def upgrade (config : Config) (name : String) : Work Unit :=
  Install.upgradeOperator config.poll ⟨config.ns, name⟩

end Provision

end Provisioner
