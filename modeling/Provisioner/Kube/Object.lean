import Provisioner.Kube.Kind
import Provisioner.Kube.ObjectMeta
/-!
# Objects of custom kinds

An object of a custom kind is a closed record of its kind, its metadata, a specification and,
once the server has looked at it, a status.
-/

namespace Provisioner

open Json (Decoder Fields member member?)

variable {α β γ : Type}

/-- Read an object from its parts; its kind and version must be given, whatever they are. -/
def decodeObject (spec : Decoder α) (status : Decoder β)
    (build : ObjectMeta → α → Option β → γ) : Decoder γ := fun value => do
  let fields ← Fields.closed ["apiVersion", "kind", "metadata", "spec", "status"] value
  let _ ← fields.required "apiVersion" Decoder.string
  let _ ← fields.required "kind" Decoder.string
  let metadata ← fields.required "metadata" ObjectMeta.decode
  let spec ← fields.required "spec" spec
  let status ← fields.optional "status" status
  return build metadata spec status

/-- Write an object from its parts. -/
def encodeObject (kind : ResourceKind) (encodeSpec : α → Json) (encodeStatus : β → Json)
    (metadata : ObjectMeta) (spec : α) (status : Option β) : Json :=
  Json.ofMembers (kind.members ++ member "metadata" metadata.encode ++
    member "spec" (encodeSpec spec) ++ member? "status" encodeStatus status)

end Provisioner
