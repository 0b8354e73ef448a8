import Provisioner.Olm.Subscription
/-!
# Operator groups

An operator group says which namespaces the operators of its own namespace watch.
-/

namespace Provisioner

open Json (Decoder Fields member member?)

/-- An operator group. -/
structure OperatorGroup where
  metadata : ObjectMeta
  /-- The namespaces that are watched. -/
  targets : List String := []
deriving DecidableEq

namespace OperatorGroup

/-- Operator groups of the operator lifecycle manager. -/
def kind : ResourceKind := {
  group := olmGroup, version := "v1", kind := "OperatorGroup", plural := "operatorgroups",
  shortNames := ["og"] }

/-- Read which namespaces are watched. -/
def decodeSpec : Decoder (List String) := fun value => do
  let fields ← Fields.closed ["targetNamespaces"] value
  fields.defaulted "targetNamespaces" (Decoder.list Decoder.string) []

/-- Write which namespaces are watched; nothing when there are none. -/
def encodeSpec (targets : List String) : Json :=
  Json.ofMembers
    (if targets.isEmpty then [] else member "targetNamespaces" (Json.ofList .string targets))

/-- Read an operator group; its kind and version must be given, whatever they are. -/
def decode : Decoder OperatorGroup := fun value => do
  let fields ← Fields.closed ["apiVersion", "kind", "metadata", "spec"] value
  let _ ← fields.required "apiVersion" Decoder.string
  let _ ← fields.required "kind" Decoder.string
  return {
    metadata := ← fields.required "metadata" ObjectMeta.decode
    targets := ← fields.required "spec" decodeSpec }

/-- Write an operator group. -/
def encode (g : OperatorGroup) : Json :=
  Json.ofMembers (kind.members ++ member "metadata" g.metadata.encode ++
    member "spec" (encodeSpec g.targets))

/-- The group of a name whose operators watch its own namespace. -/
def ofKey (key : ObjectKey) : OperatorGroup :=
  { metadata := { name := some key.name, ns := some key.ns }, targets := [key.ns] }

end OperatorGroup

end Provisioner
