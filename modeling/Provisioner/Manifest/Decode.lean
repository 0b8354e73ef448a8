import Provisioner.Json.Reader
import Provisioner.Manifest.Resource
import Provisioner.Text.Utf8
import Provisioner.Yaml.Document
/-!
# Manifests

A manifest is the bytes of some resources.  When the first byte that is not white space opens an
object or an array, the bytes are JSON values one after the other, and an array stands for its
items; otherwise they are YAML documents.  Nulls and empty documents are left out.  One document
that is not a resource spoils the whole manifest.
-/

namespace Provisioner

open Text.Utf8 (Bytes)

/-- Why bytes are not a manifest. -/
inductive ManifestError where
  /-- The bytes are not UTF-8. -/
  | notUtf8
  /-- The bytes are not JSON values. -/
  | json (cause : Json.ReadError)
  /-- The bytes are not YAML documents. -/
  | yaml (cause : Yaml.Error)
  /-- A document is not a resource. -/
  | resource (cause : ResourceError)
deriving DecidableEq

/-- What is wrong, in words. -/
def ManifestError.message : ManifestError → String
  | .notUtf8 => "manifest is not UTF-8: invalid byte sequence"
  | .json cause => "invalid JSON: " ++ cause.message
  | .yaml cause => "invalid YAML: " ++ cause.message
  | .resource cause => cause.message

namespace Manifest

/-- White space between documents: space, tab, line feed, form feed, carriage return. -/
def isSpace (b : UInt8) : Bool := b == 0x20 || b == 0x09 || b == 0x0A || b == 0x0C || b == 0x0D

/-- What a value of a JSON manifest contributes: an array its items, null nothing. -/
def flatten : Json → List Json
  | .array items => items
  | .null => []
  | value => [value]

/-- The documents of a JSON manifest. -/
def jsonDocuments (bytes : Bytes) : Except ManifestError (List Json) :=
  match Text.Utf8.decode? bytes with
  | none => .error (.json .notText)
  | some text =>
    match Json.readAll text with
    | .error cause => .error (.json cause)
    | .ok values => .ok (values.flatMap fun value => flatten value.canonical)

/-- The documents of a YAML manifest. -/
def yamlDocuments (bytes : Bytes) : Except ManifestError (List Json) :=
  match Text.Utf8.decode? bytes with
  | none => .error .notUtf8
  | some text => (Yaml.documentsOf text).mapError .yaml

/-- The documents of a manifest, by the first byte that is not white space. -/
def documents (bytes : Bytes) : Except ManifestError (List Json) :=
  match bytes.find? fun b => !isSpace b with
  | none => .ok []
  | some b => if b = 0x7B ∨ b = 0x5B then jsonDocuments bytes else yamlDocuments bytes

/-- The resources of some documents, in order. -/
def resourcesOf : List Json → Except ResourceError (List Resource)
  | [] => .ok []
  | document :: rest => do
    let first ← Resource.ofJson document
    let rest ← resourcesOf rest
    return first :: rest

/-- The resources of a manifest, in order. -/
def decode (bytes : Bytes) : Except ManifestError (List Resource) := do
  let documents ← documents bytes
  (resourcesOf documents).mapError .resource

end Manifest

end Provisioner
