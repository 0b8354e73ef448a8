import Provisioner.DatabaseCluster
import Provisioner.Error
import Provisioner.Http
import Provisioner.Kube.Deployment
import Provisioner.Kube.Node
import Provisioner.Kube.Pod
import Provisioner.Kube.Secret
import Provisioner.Kube.ServerVersion
import Provisioner.Kube.Storage
import Provisioner.Manifest.Resource
import Provisioner.Olm.InstallPlan
import Provisioner.Olm.OperatorGroup
import Provisioner.Olm.ServiceVersion
import Provisioner.Program.Run
/-!
# Calls to the platform

Everything that the work of this library asks of its surroundings: calls to the cluster, each with
the type of its answer, and requests to the monitoring server.  Work is a program over these
operations; what carries them out is left open.
-/

namespace Provisioner

open Text.Utf8 (Bytes)

/-- A call to the cluster. -/
inductive Call where
  | getDeployment (key : ObjectKey)
  | listNodes
  | listStorageClasses
  | getOperatorGroup (key : ObjectKey)
  /-- Create an operator group whose operators watch its own namespace. -/
  | createOperatorGroup (key : ObjectKey)
  /-- Create a subscription, or declare it again. -/
  | createSubscription (subscription : Subscription)
  | getSubscription (key : ObjectKey)
  | listSubscriptions (ns : String)
  | getInstallPlan (key : ObjectKey)
  /-- Write the approval of an install plan back. -/
  | updateInstallPlan (ns : String) (plan : InstallPlan)
  | getServiceVersion (key : ObjectKey)
  | listServiceVersions (ns : String)
  | getSecret (key : ObjectKey)
  | listSecrets (ns : String)
  /-- List the pods that a label selector selects. -/
  | listPods (ns : String) (selector : Option String)
  | listVolumes
  /-- List the events about a pod. -/
  | listEvents (pod : ObjectKey)
  /-- Get the log of a container of a pod. -/
  | getLogs (pod : ObjectKey) (container : String)
  | listDatabaseClusters (ns : String)
  | getDatabaseCluster (key : ObjectKey)
  | serverVersion
  /-- Declare a resource present. -/
  | applyResource (resource : Resource)
  /-- Declare the resources of a manifest present, in order. -/
  | applyManifest (manifest : Bytes)
  /-- Delete a resource; one that is absent counts as deleted. -/
  | deleteResource (resource : Resource)
  /-- Delete the resources of a manifest, in order. -/
  | deleteManifest (manifest : Bytes)

namespace Call

/-- The type of the answer to a call that succeeds. -/
abbrev Answer : Call → Type
  | getDeployment _ => Option Deployment
  | listNodes => List Node
  | listStorageClasses => List StorageClass
  | getOperatorGroup _ => Option OperatorGroup
  | createOperatorGroup _ => OperatorGroup
  | createSubscription _ => Subscription
  | getSubscription _ => Option Subscription
  | listSubscriptions _ => List Subscription
  | getInstallPlan _ => InstallPlan
  | updateInstallPlan .. => InstallPlan
  | getServiceVersion _ => Option ServiceVersion
  | listServiceVersions _ => List ServiceVersion
  | getSecret _ => Secret
  | listSecrets _ => List Secret
  | listPods .. => List Pod
  | listVolumes => List PersistentVolume
  | listEvents _ => List PodEvent
  | getLogs .. => String
  | listDatabaseClusters _ => List DatabaseCluster
  | getDatabaseCluster _ => DatabaseCluster
  | serverVersion => ServerVersion
  | applyResource _ | applyManifest _ | deleteResource _ | deleteManifest _ => Unit

/-- Whether a call changes the cluster. -/
def isWrite : Call → Bool
  | createOperatorGroup _ | createSubscription _ | updateInstallPlan .. | applyResource _
  | applyManifest _ | deleteResource _ | deleteManifest _ => true
  | _ => false

end Call

/-- An operation of the platform. -/
inductive PlatformOp where
  /-- A call to the cluster. -/
  | cluster (call : Call)
  /-- A request to the monitoring server. -/
  | monitoring (request : Http.Request)

/-- The operations of the platform. -/
abbrev Platform : Interface where
  Op := PlatformOp
  Reply
    | .cluster call => Except Error call.Answer
    | .monitoring _ => Except Http.Unreachable Http.Response

/-- A program that works on the platform. -/
abbrev Work (α : Type) : Type := Program Platform Error α

/-- Make a call to the cluster. -/
def Call.perform (call : Call) : Work call.Answer :=
  .ask (I := Platform) (.cluster call) fun reply => Program.ofExcept reply

end Provisioner
