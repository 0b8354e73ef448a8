import Provisioner.Kube.Kind
import Provisioner.Kube.ObjectMeta
/-!
# Pods

Pods, the states of their containers, and the events that are about them.
-/

namespace Provisioner

open Json (Decoder Fields)

/-- A pod. -/
structure Pod where
  metadata : ObjectMeta := {}
deriving DecidableEq

/-- What a container is doing: which of the three states are reported. -/
structure ContainerStatus where
  /-- Waiting for start-up work to finish. -/
  waiting : Bool := false
  /-- Running. -/
  running : Bool := false
  /-- Ended, well or badly. -/
  terminated : Bool := false
deriving DecidableEq

/-- A state that a container can be in. -/
inductive ContainerState where
  | waiting
  | running
  | terminated
deriving DecidableEq

/-- Something that happened to an object. -/
structure PodEvent where
  /-- `Normal` or `Warning`. -/
  type : Option String := none
  /-- Cause in one word. -/
  reason : Option String := none
  /-- Explanation for a reader. -/
  message : Option String := none
deriving DecidableEq

namespace Pod

/-- Pods of the core group. -/
def kind : ResourceKind := { group := "", version := "v1", kind := "Pod", plural := "pods" }

/-- Read a pod. -/
def decode : Decoder Pod := fun value => do
  let fields ← Fields.opened value
  kind.check fields
  return { metadata := ← fields.lenient "metadata" ObjectMeta.decode {} }

end Pod

namespace ContainerStatus

/-- A reported state is an object. -/
def reported (fields : Fields) (name : String) : Except Json.DecodeError Bool := do
  return (← fields.optional name Fields.opened).isSome

/-- Read what a container is doing. -/
def decode : Decoder ContainerStatus := fun value => do
  let fields ← Fields.opened value
  fields.lenient "state" (fun value => do
    let state ← Fields.opened value
    return {
      waiting := ← reported state "waiting"
      running := ← reported state "running"
      terminated := ← reported state "terminated" }) {}

/-- Whether a state is reported. -/
def isIn (s : ContainerStatus) : ContainerState → Bool
  | .waiting => s.waiting
  | .running => s.running
  | .terminated => s.terminated

/-- Whether any of the containers reports a state. -/
def anyIn (statuses : List ContainerStatus) (state : ContainerState) : Bool :=
  statuses.any fun s => s.isIn state

end ContainerStatus

namespace PodEvent

/-- Events of the core group. -/
def kind : ResourceKind := { group := "", version := "v1", kind := "Event", plural := "events" }

/-- Read an event. -/
def decode : Decoder PodEvent := fun value => do
  let fields ← Fields.opened value
  kind.check fields
  return {
    type := ← fields.optional "type" Decoder.string
    reason := ← fields.optional "reason" Decoder.string
    message := ← fields.optional "message" Decoder.string }

/-- An event on one line. -/
def line (e : PodEvent) : String :=
  e.type.getD "Normal" ++ " " ++ e.reason.getD "" ++ ": " ++ e.message.getD ""

end PodEvent

end Provisioner
