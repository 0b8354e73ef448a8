import Provisioner.ApiServer.Discovery
import Provisioner.ApiServer.Response
import Provisioner.Cluster.Call
import Provisioner.Manifest.Decode
/-!
# A client of the API server

Each call to the cluster as a program of requests over a network.  Most calls are one request.  A
resource is applied or deleted after its kind was looked up, and a manifest resource by resource
once all of it was decoded.
-/

namespace Provisioner

/-- What is asked of a network. -/
inductive NetworkOp where
  /-- A request to the API server. -/
  | apiServer (request : Http.Request)
  /-- A request to another server. -/
  | other (request : Http.Request)

/-- The operations of a network. -/
abbrev Network : Interface where
  Op := NetworkOp
  Reply _ := Except Http.Unreachable Http.Response

namespace ApiServer

open Json (Decoder)
open Http (Request Response Unreachable)

/-- A program of requests that fails as a client does. -/
abbrev Exchange (α : Type) : Type := Program Network ClientError α

/-! ## Single requests -/

/-- Send a request, if it could be formed, and read its answer. -/
def send {α : Type} (form : Except ClientError Request)
    (read : Response → Except ClientError α) : Exchange α :=
  match form with
  | .error e => .fail e
  | .ok request =>
    .ask (I := Network) (.apiServer request) fun
      | .error (unreachable : Unreachable) => .fail (.service unreachable.detail)
      | .ok (response : Response) => Program.ofExcept (read response)

/-- Read an object. -/
def get {α : Type} (d : Decoder α) (c : Collection) (name : String) : Exchange α :=
  send (getObject c name) (bodyOf d)

/-- Read an object that may be absent. -/
def get? {α : Type} (d : Decoder α) (c : Collection) (name : String) : Exchange (Option α) :=
  send (getObject c name) fun response => absentOr (bodyOf d response)

/-- List a collection. -/
def list {α : Type} (d : Decoder α) (c : Collection) (query : List (String × String)) :
    Exchange (List α) :=
  send (listObjects c query) (bodyOf (decodeList d))

/-- The objects of a kind in a namespace. -/
def inNamespace (kind : ResourceKind) (ns : String) : Collection := .ofKind kind (some ns)

/-- The objects of a kind in all of the cluster. -/
def inCluster (kind : ResourceKind) : Collection := .ofKind kind none

/-- The failure of a request as that of a call. -/
def ofExchange {α : Type} (exchange : Exchange α) : Program Network Error α :=
  exchange.mapError .kube

/-! ## Resources -/

/-- Look up the collection that a resource belongs to. -/
def lookUp (r : Resource) : Exchange Collection := do
  let kinds ← send (listKinds r.group r.version) (bodyOf KindList.decode)
  match kinds.collection? r with
  | some c => return c
  | none => .fail (.discovery ("missing kind " ++ r.kind))

/-- Look up the collection that a resource belongs to, for a call. -/
def collectionOf (r : Resource) : Program Network Error Collection :=
  (lookUp r).mapError fun e => .internal "discovery"
    ("unknown resource type " ++ r.apiVersion ++ "/" ++ r.kind ++ ": " ++ e.message)

/-- Apply a resource. -/
def applyResource (r : Resource) : Program Network Error Unit := do
  let c ← collectionOf r
  (send (applyObject c r.name r.body) (bodyOf checkObject)).mapError fun e =>
    Error.internal "apply_resource" ("failed to apply " ++ r.displayName ++ ": " ++ e.message)

/-- Whether an error says that the object is gone. -/
def isGone : ClientError → Bool
  | .api r => r.code == 404
  | _ => false

/-- Delete a resource, or find it gone. -/
def deleteResource (r : Resource) : Program Network Error Unit := do
  let c ← collectionOf r
  (send (deleteObject c r.name) (bodyOf checkDeleted)).handle fun e =>
    if isGone e then .done ()
    else .fail (.internal "delete_resource"
      ("failed to delete " ++ r.displayName ++ ": " ++ e.message))

/-- Do something for each resource, in order. -/
def forResources (action : Resource → Program Network Error Unit) :
    List Resource → Program Network Error Unit
  | [] => .done ()
  | r :: rest => do
    action r
    forResources action rest

/-- Do something for each resource of a manifest, in order, once all of it was decoded. -/
def forManifest (action : Resource → Program Network Error Unit) (manifest : Text.Utf8.Bytes) :
    Program Network Error Unit :=
  match Manifest.decode manifest with
  | .error e => .fail (.manifest e.message)
  | .ok resources => forResources action resources

/-! ## Calls -/

/-- Create a subscription, or declare it again. -/
def createSubscription (s : Subscription) : Program Network Error Subscription :=
  match s.metadata.name with
  | none => .fail (.precondition "create_subscription" "subscription has no name")
  | some name =>
    let c := inNamespace Subscription.kind (s.metadata.ns.getD "default")
    ofExchange (send (applyObject c name s.encode) (bodyOf Subscription.decode))

/-- The part of an install plan that is written back. -/
def approvalDocument (plan : InstallPlan) : Json :=
  Json.ofMembers (Json.member "spec"
    (Json.ofMembers (Json.member "approved" (.bool plan.spec.approved))))

/-- Write the approval of an install plan back. -/
def updateInstallPlan (ns : String) (plan : InstallPlan) : Program Network Error InstallPlan :=
  match plan.metadata.name with
  | none => .fail (.precondition "update_install_plan" "install plan has no name")
  | some name =>
    let c := inNamespace InstallPlan.kind ns
    ofExchange (send (mergeObject c name (approvalDocument plan)) (bodyOf InstallPlan.decode))

/-- Carry out a call to the cluster. -/
def carryOut : (call : Call) → Program Network Error call.Answer
  | .getDeployment key =>
    ofExchange (get? Deployment.decode (inNamespace Deployment.kind key.ns) key.name)
  | .listNodes => ofExchange (list Node.decode (inCluster Node.kind) [])
  | .listStorageClasses => ofExchange (list StorageClass.decode (inCluster StorageClass.kind) [])
  | .getOperatorGroup key =>
    ofExchange (get? OperatorGroup.decode (inNamespace OperatorGroup.kind key.ns) key.name)
  | .createOperatorGroup key =>
    ofExchange (send
      (postObject (inNamespace OperatorGroup.kind key.ns) (OperatorGroup.ofKey key).encode)
      (bodyOf OperatorGroup.decode))
  | .createSubscription s => createSubscription s
  | .getSubscription key =>
    ofExchange (get? Subscription.decode (inNamespace Subscription.kind key.ns) key.name)
  | .listSubscriptions ns =>
    ofExchange (list Subscription.decode (inNamespace Subscription.kind ns) [])
  | .getInstallPlan key =>
    ofExchange (get InstallPlan.decode (inNamespace InstallPlan.kind key.ns) key.name)
  | .updateInstallPlan ns plan => updateInstallPlan ns plan
  | .getServiceVersion key =>
    ofExchange (get? ServiceVersion.decode (inNamespace ServiceVersion.kind key.ns) key.name)
  | .listServiceVersions ns =>
    ofExchange (list ServiceVersion.decode (inNamespace ServiceVersion.kind ns) [])
  | .getSecret key => ofExchange (get Secret.decode (inNamespace Secret.kind key.ns) key.name)
  | .listSecrets ns => ofExchange (list Secret.decode (inNamespace Secret.kind ns) [])
  | .listPods ns selector =>
    ofExchange (list Pod.decode (inNamespace Pod.kind ns)
      ((selector.map fun text => [("labelSelector", text)]).getD []))
  | .listVolumes =>
    ofExchange (list PersistentVolume.decode (inCluster PersistentVolume.kind) [])
  | .listEvents pod =>
    ofExchange (list PodEvent.decode (inNamespace PodEvent.kind pod.ns)
      [("fieldSelector", "involvedObject.name=" ++ pod.name)])
  | .getLogs pod container =>
    ofExchange (send (getLog (inNamespace Pod.kind pod.ns) pod.name container) textOf)
  | .listDatabaseClusters ns =>
    ofExchange (list DatabaseCluster.decode (inNamespace DatabaseCluster.kind ns) [])
  | .getDatabaseCluster key =>
    ofExchange (get DatabaseCluster.decode (inNamespace DatabaseCluster.kind key.ns) key.name)
  | .serverVersion => ofExchange (send (getBare "/version") (bodyOf ServerVersion.decode))
  | .applyResource r => applyResource r
  | .applyManifest manifest => forManifest applyResource manifest
  | .deleteResource r => deleteResource r
  | .deleteManifest manifest => forManifest deleteResource manifest

/-- Answer an operation of the platform over a network. -/
def answer : (op : PlatformOp) → Program Network Empty (Platform.Reply op)
  | .cluster call => (carryOut call).attempt
  | .monitoring request => Program.request (I := Network) (.other request)

/-- Carry out work on the platform over a network. -/
def onNetwork {α : Type} (work : Work α) : Program Network Error α :=
  Program.interpret (I := Platform) answer work

end ApiServer

end Provisioner
