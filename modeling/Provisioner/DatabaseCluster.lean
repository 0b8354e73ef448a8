import Provisioner.Kube.Object
/-!
# Database clusters

A database cluster run by the database operator.  When one is sent back to the API server, the
parts that the server fills in are left out: it refuses bodies that carry them.
-/

namespace Provisioner

open Json (Decoder Fields member member?)

/-- Resources of one database instance. -/
structure InstanceResources where
  cpu : Option String := none
  memory : Option String := none
  diskSize : Option String := none
deriving DecidableEq

/-- How a database cluster is monitored. -/
structure ClusterMonitoring where
  /-- Image of the monitoring client. -/
  image : Option String := none
  /-- Address of the monitoring server. -/
  serverHost : Option String := none
deriving DecidableEq

/-- What a database cluster should be. -/
structure DatabaseClusterSpec where
  /-- The engine. -/
  databaseType : Option String := none
  /-- Image of the engine. -/
  databaseImage : Option String := none
  /-- Configuration of the engine. -/
  databaseConfig : Option String := none
  /-- Secret with the users of the system. -/
  secretsName : Option String := none
  /-- Whether the cluster is suspended. -/
  pause : Bool := false
  /-- Number of instances. -/
  clusterSize : Option Int32 := none
  /-- Resources of each instance. -/
  dbInstance : Option InstanceResources := none
  /-- How the cluster is monitored. -/
  monitoring : Option ClusterMonitoring := none
deriving DecidableEq

/-- What a database cluster is. -/
structure DatabaseClusterStatus where
  /-- State in one word. -/
  state : Option String := none
  /-- Instances that are ready. -/
  ready : Int32 := 0
  /-- Instances in all. -/
  size : Int32 := 0
  /-- Host to connect to. -/
  host : Option String := none
  /-- Explanation for a reader. -/
  message : Option String := none
deriving DecidableEq

/-- A database cluster. -/
structure DatabaseCluster where
  metadata : ObjectMeta
  spec : DatabaseClusterSpec
  status : Option DatabaseClusterStatus := none
deriving DecidableEq

namespace InstanceResources

/-- Read the resources of an instance. -/
def decode : Decoder InstanceResources := fun value => do
  let fields ← Fields.closed ["cpu", "memory", "diskSize"] value
  return {
    cpu := ← fields.optional "cpu" Decoder.string
    memory := ← fields.optional "memory" Decoder.string
    diskSize := ← fields.optional "diskSize" Decoder.string }

/-- Write the resources of an instance. -/
def encode (r : InstanceResources) : Json :=
  Json.ofMembers (member? "cpu" .string r.cpu ++ member? "memory" .string r.memory ++
    member? "diskSize" .string r.diskSize)

end InstanceResources

namespace ClusterMonitoring

/-- Read how a cluster is monitored. -/
def decode : Decoder ClusterMonitoring := fun value => do
  let fields ← Fields.closed ["image", "serverHost"] value
  return {
    image := ← fields.optional "image" Decoder.string
    serverHost := ← fields.optional "serverHost" Decoder.string }

/-- Write how a cluster is monitored. -/
def encode (m : ClusterMonitoring) : Json :=
  Json.ofMembers (member? "image" .string m.image ++ member? "serverHost" .string m.serverHost)

end ClusterMonitoring

namespace DatabaseClusterSpec

/-- Read what a cluster should be. -/
def decode : Decoder DatabaseClusterSpec := fun value => do
  let fields ← Fields.closed
    ["databaseType", "databaseImage", "databaseConfig", "secretsName", "pause", "clusterSize",
      "dbInstance", "monitoring"] value
  return {
    databaseType := ← fields.optional "databaseType" Decoder.string
    databaseImage := ← fields.optional "databaseImage" Decoder.string
    databaseConfig := ← fields.optional "databaseConfig" Decoder.string
    secretsName := ← fields.optional "secretsName" Decoder.string
    pause := ← fields.defaulted "pause" Decoder.bool false
    clusterSize := ← fields.optional "clusterSize" Decoder.signed32
    dbInstance := ← fields.optional "dbInstance" InstanceResources.decode
    monitoring := ← fields.optional "monitoring" ClusterMonitoring.decode }

/-- Write what a cluster should be. -/
def encode (s : DatabaseClusterSpec) : Json :=
  Json.ofMembers (member? "databaseType" .string s.databaseType ++
    member? "databaseImage" .string s.databaseImage ++
    member? "databaseConfig" .string s.databaseConfig ++
    member? "secretsName" .string s.secretsName ++ member "pause" (.bool s.pause) ++
    member? "clusterSize" Json.ofInt32 s.clusterSize ++
    member? "dbInstance" InstanceResources.encode s.dbInstance ++
    member? "monitoring" ClusterMonitoring.encode s.monitoring)

end DatabaseClusterSpec

namespace DatabaseClusterStatus

/-- Read what a cluster is. -/
def decode : Decoder DatabaseClusterStatus := fun value => do
  let fields ← Fields.closed ["state", "ready", "size", "host", "message"] value
  return {
    state := ← fields.optional "state" Decoder.string
    ready := ← fields.defaulted "ready" Decoder.signed32 0
    size := ← fields.defaulted "size" Decoder.signed32 0
    host := ← fields.optional "host" Decoder.string
    message := ← fields.optional "message" Decoder.string }

/-- Write what a cluster is. -/
def encode (s : DatabaseClusterStatus) : Json :=
  Json.ofMembers (member? "state" .string s.state ++ member "ready" (Json.ofInt32 s.ready) ++
    member "size" (Json.ofInt32 s.size) ++ member? "host" .string s.host ++
    member? "message" .string s.message)

end DatabaseClusterStatus

namespace DatabaseCluster

/-- Database clusters of the database operator. -/
def kind : ResourceKind := {
  group := "dbaas.percona.com", version := "v1", kind := "DatabaseCluster",
  plural := "databaseclusters", shortNames := ["db"] }

/-- Annotation of the clusters that are managed from outside. -/
def managedByAnnotation : String := "dbaas.percona.com/managed-by"

/-- Value of that annotation. -/
def managedByValue : String := "pmm"

/-- Annotation that asks the database operator to restart a cluster. -/
def restartAnnotation : String := "dbaas.percona.com/restart"

/-- Read a cluster. -/
def decode : Decoder DatabaseCluster :=
  decodeObject DatabaseClusterSpec.decode DatabaseClusterStatus.decode DatabaseCluster.mk

/-- Write a cluster. -/
def encode (c : DatabaseCluster) : Json :=
  encodeObject kind DatabaseClusterSpec.encode DatabaseClusterStatus.encode c.metadata c.spec
    c.status

/-- The same cluster with an annotation set. -/
def setAnnotation (name text : String) (c : DatabaseCluster) : DatabaseCluster :=
  { c with metadata := { c.metadata with
      annotations := some ((c.metadata.annotations.getD []).set name text) } }

/-- The same cluster without what the API server fills in. -/
def forApply (c : DatabaseCluster) : DatabaseCluster :=
  { c with
    metadata := { c.metadata with
      managedFields := none, resourceVersion := none, uid := none, creationTimestamp := none,
      generation := none }
    status := none }

end DatabaseCluster

end Provisioner
