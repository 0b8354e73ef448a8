import Provisioner.Kube.Kind
import Provisioner.Kube.ObjectMeta
import Provisioner.Text.Search
/-!
# Storage

Storage classes and volumes.  What provisions the volumes of its classes tells what sort of
cluster one is talking to.
-/

namespace Provisioner

open Json (Decoder Fields)

/-- A storage class. -/
structure StorageClass where
  metadata : ObjectMeta := {}
  /-- What provisions the volumes of the class. -/
  provisioner : String := ""
deriving DecidableEq

/-- A persistent volume. -/
structure PersistentVolume where
  metadata : ObjectMeta := {}
deriving DecidableEq

namespace StorageClass

/-- Storage classes of the group `storage.k8s.io`. -/
def kind : ResourceKind := {
  group := "storage.k8s.io", version := "v1", kind := "StorageClass", plural := "storageclasses",
  namespaced := false }

/-- Read a storage class. -/
def decode : Decoder StorageClass := fun value => do
  let fields ← Fields.opened value
  kind.check fields
  return {
    metadata := ← fields.lenient "metadata" ObjectMeta.decode {}
    provisioner := ← fields.lenient "provisioner" Decoder.string "" }

end StorageClass

namespace PersistentVolume

/-- Volumes of the core group. -/
def kind : ResourceKind := {
  group := "", version := "v1", kind := "PersistentVolume", plural := "persistentvolumes",
  namespaced := false }

/-- Read a volume. -/
def decode : Decoder PersistentVolume := fun value => do
  let fields ← Fields.opened value
  kind.check fields
  return { metadata := ← fields.lenient "metadata" ObjectMeta.decode {} }

end PersistentVolume

/-- What sort of cluster one is talking to. -/
inductive ClusterType where
  /-- It could not be found out. -/
  | unknown
  /-- A local cluster of a single node. -/
  | minikube
  /-- A cluster of Amazon's service. -/
  | eks
  /-- Any other. -/
  | generic
deriving DecidableEq

namespace ClusterType

instance : Inhabited ClusterType := ⟨unknown⟩

/-- The name of a sort of cluster. -/
def text : ClusterType → String
  | unknown => "unknown"
  | minikube => "minikube"
  | eks => "eks"
  | generic => "generic"

/-- Texts in the provisioners of local clusters. -/
def localMarkers : List String := ["minikube", "kubevirt.io/hostpath-provisioner", "standard"]

/-- The text in the provisioners of Amazon's service. -/
def eksMarker : String := "aws"

/-- What one storage class tells, if anything; the marker of Amazon's service goes first. -/
def ofClass? (c : StorageClass) : Option ClusterType :=
  if Text.occurs eksMarker c.provisioner then some eks
  else if localMarkers.any fun marker => Text.occurs marker c.provisioner then some minikube
  else none

/-- What the storage classes of a cluster tell: the first one that tells anything decides. -/
def classify (classes : List StorageClass) : ClusterType :=
  (classes.findSome? ofClass?).getD generic

end ClusterType

end Provisioner
