import Provisioner.ApiServer.Client
import Provisioner.CommandLine
import Provisioner.Kubeconfig
import Provisioner.Provision
/-!
# Invocations

What becomes of a command line: nothing but an exit code, or work that is carried out over a
network once the configuration is loaded and the cluster is connected to.  An error of either ends
the run with exit code one, wrong arguments with exit code two.
-/

namespace Provisioner

open CommandLine (Command)
open Manifest (Source)

/-- What an invocation finds around it. -/
structure Host where
  env : Environment
  files : Kubeconfig.Files
  /-- The random numbers of the run. -/
  numbers : Provision.Numbers

/-- What an invocation is. -/
inductive Invocation where
  /-- It has ended, with an exit code and perhaps an error. -/
  | finished (code : Nat) (error : Option String)
  /-- It has work to do on a cluster. -/
  | work (connection : Kubeconfig.Connection) (work : Program Network Error Unit)

namespace Invocation

/-- The work of a command. -/
def workOf (config : Config) (source : Source) (numbers : Provision.Numbers) :
    Command → Work Unit
  | .provision _ => Provision.cluster config source numbers
  | .provisionMonitoring _ => do
    let _ ← Provision.monitoring config source numbers
  | .cleanupMonitoring => Monitoring.cleanup source
  | .upgrade name => Provision.upgrade config name

/-- The configuration of a command line. -/
def configOf (host : Host) : Option String → Except String Config
  | none => .ok (Config.ofEnvironment host.env)
  | some path =>
    (Config.load path (host.files path) host.env).mapError fun e =>
      "Failed to load config " ++ Text.quote path ++ ": " ++ e.message

/-- Load the configuration, connect to the cluster, and find the work of a command line. -/
def prepare (host : Host) (arguments : CommandLine.Arguments) : Except String Invocation := do
  let config := arguments.applyTo (← configOf host arguments.configFile)
  let connection ← (Kubeconfig.connect host.files host.env config.kubeconfig).mapError fun e =>
    "Failed to connect to the cluster: " ++ e.toError.message
  let source := Source.ofDirectory config.manifestsDir host.files
  return .work connection
    (ApiServer.onNetwork (workOf config source host.numbers arguments.command))

/-- The invocation of a command line. -/
def ofArguments (host : Host) (args : List String) : Invocation :=
  match CommandLine.read host.env args with
  | .error .information => .finished 0 none
  | .error .usage => .finished 2 none
  | .ok arguments =>
    match prepare host arguments with
    | .error message => .finished 1 (some message)
    | .ok invocation => invocation

/-- The variables that an invocation reads. -/
def variableNames : List String := [
  "EVEREST_CONFIG", "EVEREST_MANIFESTS_DIR", "PMM_ENDPOINT", "PMM_USERNAME", "PMM_PASSWORD",
  "DBAAS_VM_OP_CHANNEL", "DBAAS_PXC_OP_CHANNEL", "DBAAS_PSMDB_OP_CHANNEL",
  "DBAAS_DBAAS_OP_CHANNEL", "KUBECONFIG", "HOME", "HTTP_PROXY", "http_proxy", "HTTPS_PROXY",
  "https_proxy"]

/-- The paths of the files that an invocation reads, as far as the files that are there tell: the
configuration names connection files, and those name files with credentials. -/
def paths (host : Host) (args : List String) : List String :=
  match CommandLine.read host.env args with
  | .error _ => []
  | .ok arguments =>
    arguments.configFile.toList ++
      match configOf host arguments.configFile with
      | .error _ => []
      | .ok config =>
        let config := arguments.applyTo config
        Kubeconfig.paths host.files host.env config.kubeconfig ++
          Manifest.paths.map (Manifest.joinPath config.manifestsDir)

/-- How many files one after the other name the next one at most. -/
def depth : Nat := 3

/-- The exit code and the error that work ends with. -/
def exitOf : Except Error Unit → Nat × Option String
  | .ok () => (0, none)
  | .error e => (1, some e.message)

end Invocation

end Provisioner
