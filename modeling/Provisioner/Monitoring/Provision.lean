import Provisioner.Cluster.Write
import Provisioner.Manifest.Source
import Provisioner.Monitoring.Objects
/-!
# Putting monitoring in place

The secret and the agent are applied once each, then the manifests of the monitoring stack, each as
often as the policy allows.  Removing monitoring deletes the manifests and leaves the secret and
the agent.
-/

namespace Provisioner.Monitoring

open Manifest (Source)

/-- Where and how monitoring is put in place. -/
structure Settings where
  /-- Namespace of the secret and the agent. -/
  ns : String
  /-- How often a manifest is applied. -/
  retry : Retry

/-- A resource, or the failure to make one. -/
def ofResource (result : Except ResourceError Resource) : Work Resource :=
  Program.ofExcept (result.mapError fun e => .manifest e.message)

/-- Apply one manifest of the monitoring stack. -/
def applyFile (retry : Retry) (source : Source) (path : String) : Work Unit := do
  let manifest ← Program.ofExcept (source path)
  (Cluster.applyManifestWithRetry retry manifest).mapError fun e =>
    Error.monitoring ("cannot apply file " ++ path ++ ": " ++ e.message)

/-- Apply manifests of the monitoring stack in order. -/
def applyFiles (retry : Retry) (source : Source) : List String → Work Unit
  | [] => return ()
  | path :: rest => do
    applyFile retry source path
    applyFiles retry source rest

/-- Put monitoring in place for the server at an address; the name of the secret. -/
def provision (settings : Settings) (source : Source) (suffix : UInt64)
    (login password address : String) : Work String := do
  let secret := secretName suffix
  let resource ← ofResource (secretResource (credentials secret settings.ns login password))
  (Call.applyResource resource).perform.mapError fun e =>
    Error.monitoring ("cannot create secret " ++ secret ++ ": " ++ e.message)
  let agent ← ofResource (agent secret settings.ns address)
  (Call.applyResource agent).perform.mapError fun e =>
    Error.monitoring ("cannot apply vm agent spec: " ++ e.message)
  applyFiles settings.retry source Manifest.monitoring
  return secret

/-- Delete one manifest of the monitoring stack. -/
def deleteFile (source : Source) (path : String) : Work Unit := do
  let manifest ← Program.ofExcept (source path)
  (Call.deleteManifest manifest).perform.mapError fun e =>
    Error.monitoring ("cannot delete file " ++ path ++ ": " ++ e.message)

/-- Delete manifests of the monitoring stack in order. -/
def deleteFiles (source : Source) : List String → Work Unit
  | [] => return ()
  | path :: rest => do
    deleteFile source path
    deleteFiles source rest

/-- Remove the monitoring stack. -/
def cleanup (source : Source) : Work Unit := deleteFiles source Manifest.monitoringCleanup

end Provisioner.Monitoring
