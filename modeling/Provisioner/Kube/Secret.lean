import Provisioner.Kube.Kind
import Provisioner.Kube.ObjectMeta
import Provisioner.Text.Base64
/-!
# Secrets

Named bytes kept by the API server.  In a document the bytes are written in base64.
-/

namespace Provisioner

open Json (Decoder Fields member member?)
open Text.Utf8 (Bytes)

/-- A secret. -/
structure Secret where
  metadata : ObjectMeta := {}
  /-- What the secret is for. -/
  type : Option String := none
  /-- The bytes by name. -/
  data : Option (List (String × Bytes)) := none
deriving DecidableEq

namespace Secret

/-- Secrets of the core group. -/
def kind : ResourceKind := { group := "", version := "v1", kind := "Secret", plural := "secrets" }

/-- Bytes are a string in base64; null is no bytes. -/
def decodeBytes : Decoder Bytes
  | .null => .ok []
  | .string s =>
    match Text.Base64.decodeString? s with
    | some bytes => .ok bytes
    | none => .error (.expected "base64")
  | _ => .error (.expected "a string")

/-- Read a secret. -/
def decode : Decoder Secret := fun value => do
  let fields ← Fields.opened value
  kind.check fields
  return {
    metadata := ← fields.lenient "metadata" ObjectMeta.decode {}
    type := ← fields.optional "type" Decoder.string
    data := ← fields.optional "data" (Decoder.map decodeBytes) }

/-- Bytes are written in base64. -/
def encodeBytes (bytes : Bytes) : Json := .string (Text.Base64.encodeString bytes)

/-- Write a secret. -/
def encode (s : Secret) : Json :=
  Json.ofMembers (kind.members ++ member? "data" (Json.ofMap encodeBytes) s.data ++
    member "metadata" s.metadata.encode ++ member? "type" .string s.type)

end Secret

end Provisioner
