import Provisioner.Kube.Kind
import Provisioner.Kube.ObjectMeta
/-!
# Nodes

A node takes work unless all of its taints are ones that keep work away.
-/

namespace Provisioner

open Json (Decoder Fields)

/-- A taint of a node. -/
structure Taint where
  /-- What the taint is about. -/
  key : String
  /-- What it does to pods. -/
  effect : String
deriving DecidableEq

/-- A condition that a node reports. -/
structure NodeCondition where
  /-- Name of the condition. -/
  type : String
  /-- `True`, `False` or `Unknown`. -/
  status : String
deriving DecidableEq

/-- A node. -/
structure Node where
  metadata : ObjectMeta := {}
  /-- Taints, if any are listed. -/
  taints : Option (List Taint) := none
  /-- Conditions, if any are listed. -/
  conditions : Option (List NodeCondition) := none
deriving DecidableEq

/-- Read a taint. -/
def Taint.decode : Decoder Taint := fun value => do
  let fields ← Fields.opened value
  return {
    key := ← fields.lenient "key" Decoder.string ""
    effect := ← fields.lenient "effect" Decoder.string "" }

/-- Read a condition. -/
def NodeCondition.decode : Decoder NodeCondition := fun value => do
  let fields ← Fields.opened value
  return {
    type := ← fields.lenient "type" Decoder.string ""
    status := ← fields.lenient "status" Decoder.string "" }

namespace Node

/-- Nodes of the core group. -/
def kind : ResourceKind :=
  { group := "", version := "v1", kind := "Node", plural := "nodes", namespaced := false }

/-- Read a node. -/
def decode : Decoder Node := fun value => do
  let fields ← Fields.opened value
  kind.check fields
  return {
    metadata := ← fields.lenient "metadata" ObjectMeta.decode {}
    taints := ← fields.lenient "spec" (fun value => do
      (← Fields.opened value).optional "taints" (Decoder.list Taint.decode)) none
    conditions := ← fields.lenient "status" (fun value => do
      (← Fields.opened value).optional "conditions" (Decoder.list NodeCondition.decode)) none }

/-- Taints that keep work away, each with the effect it must have. -/
def forbiddenTaints : List Taint := [
  ⟨"node.cloudprovider.kubernetes.io/uninitialized", "NoSchedule"⟩,
  ⟨"node.kubernetes.io/unschedulable", "NoSchedule"⟩,
  ⟨"node-role.kubernetes.io/master", "NoSchedule"⟩]

/-- Whether a node takes work: it has no taints, or one that does not keep work away. -/
def isWorker (n : Node) : Bool :=
  let taints := n.taints.getD []
  taints.isEmpty || taints.any fun taint => !forbiddenTaints.contains taint

/-- The nodes that take work, in order. -/
def workers (nodes : List Node) : List Node := nodes.filter isWorker

/-- Whether a node reports a condition as true. -/
def isInCondition (n : Node) (type : String) : Bool :=
  match n.conditions with
  | none => false
  | some conditions => conditions.any fun c => c.type == type && c.status == "True"

end Node

end Provisioner
