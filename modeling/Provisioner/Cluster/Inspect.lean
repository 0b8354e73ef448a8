import Provisioner.Cluster.Call
/-!
# Looking at a cluster

What is read off the answers of the cluster: the lines of a log, the events of a pod, the version
of an operator, the nodes that take work, and what sort of cluster it is.
-/

namespace Provisioner.Cluster

/-- The lines of a text; an empty text has none. -/
def linesOf (text : String) : List String := if text = "" then [] else Text.pieces '\n' text

/-- The log of a container, line by line.  A pod with a container that is still waiting has no log
yet. -/
def logLines (statuses : List ContainerStatus) (pod : ObjectKey) (container : String) :
    Work (List String) :=
  if ContainerStatus.anyIn statuses .waiting then return []
  else do
    let text ← (Call.getLogs pod container).perform.mapError fun e =>
      Error.internal "get_logs" ("couldn't get logs: " ++ e.message)
    return linesOf text

/-- The events about a pod, one on each line. -/
def eventLines (pod : ObjectKey) : Work (List String) := do
  let events ← (Call.listEvents pod).perform.mapError fun e =>
    Error.internal "get_events" ("couldn't describe pod: " ++ e.message)
  return events.map PodEvent.line

/-- Where the version of an operator is found: its deployment and the container in it. -/
structure OperatorImage where
  deployment : String
  container : String

/-- The operator of the XtraDB clusters. -/
def pxcOperator : OperatorImage :=
  ⟨"percona-xtradb-cluster-operator", "percona-xtradb-cluster-operator"⟩

/-- The operator of the MongoDB clusters. -/
def psmdbOperator : OperatorImage :=
  ⟨"percona-server-mongodb-operator", "percona-server-mongodb-operator"⟩

/-- The operator of the database clusters. -/
def dbaasOperator : OperatorImage := ⟨"dbaas-operator-controller-manager", "manager"⟩

/-- The version of an operator that a deployment tells: the tag of the image of its container. -/
def versionOf (operator : OperatorImage) (d : Deployment) : Except Error String :=
  match d.imageOf? operator.container with
  | none =>
    .error (.notFound
      ("version of operator " ++ operator.deployment ++ "/" ++ operator.container))
  | some image =>
    match imageTag? image with
    | some tag => .ok tag
    | none =>
      .error (.precondition "operator_version" ("image " ++ image ++ " carries no version tag"))

/-- The version of an operator. -/
def operatorVersion (ns : String) (operator : OperatorImage) : Work String := do
  match ← (Call.getDeployment ⟨ns, operator.deployment⟩).perform with
  | none => .fail (.notFound ("deployment " ++ ns ++ "/" ++ operator.deployment))
  | some found => Program.ofExcept (versionOf operator found)

/-- The name of the first storage class that has one. -/
def defaultStorageClassName : Work String := do
  let classes ← Call.listStorageClasses.perform
  match classes.findSome? (·.metadata.name) with
  | some name => return name
  | none => .fail (.notFound "storage classes")

/-- What sort of cluster it is. -/
def clusterType : Work ClusterType := do
  return ClusterType.classify (← Call.listStorageClasses.perform)

/-- The nodes that take work. -/
def workerNodes : Work (List Node) := do
  let nodes ← Call.listNodes.perform.mapError fun e =>
    Error.internal "worker_nodes" ("could not get nodes of Kubernetes cluster: " ++ e.message)
  return Node.workers nodes

end Provisioner.Cluster
