import Provisioner.Kube.Kind
import Provisioner.Kube.ObjectMeta
import Provisioner.Text.Search
/-!
# Deployments

The parts of a deployment that are looked at: how far its rollout is, and the images that its
containers run.
-/

namespace Provisioner

open Json (Decoder Fields)

/-- A container of a pod. -/
structure Container where
  /-- Name within the pod. -/
  name : String
  /-- Reference of the image that it runs. -/
  image : Option String := none
deriving DecidableEq

/-- What a deployment should be. -/
structure DeploymentSpec where
  /-- How many pods should run. -/
  replicas : Option Int := none
  /-- The containers of each pod, if the pods are described. -/
  containers : Option (List Container) := none
deriving DecidableEq

/-- What a deployment is. -/
structure DeploymentStatus where
  /-- The generation that the counts are about. -/
  observedGeneration : Option Int := none
  /-- Pods of the latest description. -/
  updatedReplicas : Option Int := none
  /-- Pods that are ready. -/
  readyReplicas : Option Int := none
  /-- Pods that have been ready for long enough. -/
  availableReplicas : Option Int := none
deriving DecidableEq

/-- A deployment. -/
structure Deployment where
  metadata : ObjectMeta := {}
  spec : Option DeploymentSpec := none
  status : Option DeploymentStatus := none
deriving DecidableEq

/-- Read a container. -/
def Container.decode : Decoder Container := fun value => do
  let fields ← Fields.opened value
  return {
    name := ← fields.lenient "name" Decoder.string ""
    image := ← fields.optional "image" Decoder.string }

/-- Read the containers of a description of pods. -/
def DeploymentSpec.decodeContainers : Decoder (Option (List Container)) := fun value => do
  let template ← Fields.opened value
  template.optional "spec" fun value => do
    let pod ← Fields.opened value
    pod.lenient "containers" (Decoder.list Container.decode) []

/-- Read what a deployment should be. -/
def DeploymentSpec.decode : Decoder DeploymentSpec := fun value => do
  let fields ← Fields.opened value
  return {
    replicas := ← fields.optional "replicas" Decoder.int32
    containers := ← fields.lenient "template" decodeContainers none }

/-- Read what a deployment is. -/
def DeploymentStatus.decode : Decoder DeploymentStatus := fun value => do
  let fields ← Fields.opened value
  return {
    observedGeneration := ← fields.optional "observedGeneration" Decoder.int64
    updatedReplicas := ← fields.optional "updatedReplicas" Decoder.int32
    readyReplicas := ← fields.optional "readyReplicas" Decoder.int32
    availableReplicas := ← fields.optional "availableReplicas" Decoder.int32 }

namespace Deployment

/-- Deployments of the group `apps`. -/
def kind : ResourceKind where
  group := "apps"
  version := "v1"
  kind := "Deployment"
  plural := "deployments"

/-- Read a deployment. -/
def decode : Decoder Deployment := fun value => do
  let fields ← Fields.opened value
  kind.check fields
  return {
    metadata := ← fields.lenient "metadata" ObjectMeta.decode {}
    spec := ← fields.optional "spec" DeploymentSpec.decode
    status := ← fields.optional "status" DeploymentStatus.decode }

/-- How many pods should run; one when it is not said. -/
def desiredReplicas (d : Deployment) : Int := (d.spec.bind (·.replicas)).getD 1

/-- Whether the rollout is complete: the counts are about the latest generation, and as many pods
as wanted are updated, ready and available. -/
def isRolloutComplete (d : Deployment) : Bool :=
  match d.status with
  | none => false
  | some status =>
    decide (d.metadata.generation.getD 0 ≤ status.observedGeneration.getD 0) &&
      status.updatedReplicas.getD 0 == d.desiredReplicas &&
      status.readyReplicas.getD 0 == d.desiredReplicas &&
      status.availableReplicas.getD 0 == d.desiredReplicas

/-- The image of the first container of a name. -/
def imageOf? (d : Deployment) (container : String) : Option String := do
  let spec ← d.spec
  let containers ← spec.containers
  let found ← containers.find? fun c => c.name == container
  found.image

end Deployment

/-- The part of an image reference after its last colon. -/
def imageTag? (image : String) : Option String := (Text.cutLast ':' image).map Prod.snd

end Provisioner
