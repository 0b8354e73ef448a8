import Provisioner.Json.Fields
/-!
# Kinds of objects

How a kind of object is named in a document and in a path of the API server.
-/

namespace Provisioner

/-- A kind of object as the API server knows it. -/
structure ResourceKind where
  /-- API group; empty for the core group. -/
  group : String
  /-- Version within the group. -/
  version : String
  /-- Name of the kind. -/
  kind : String
  /-- Name of the collection in a path. -/
  plural : String
  /-- Whether objects live in a namespace. -/
  namespaced : Bool := true
  /-- Short names for a command line. -/
  shortNames : List String := []
deriving DecidableEq

namespace ResourceKind

/-- Group and version with a slash between them; the version alone for the core group. -/
def apiVersion (k : ResourceKind) : String :=
  if k.group = "" then k.version else k.group ++ "/" ++ k.version

/-- Accepts one text only. -/
def exactly (text : String) : Json.Decoder Unit
  | .string s => if s = text then .ok () else .error (.unknown s)
  | _ => .error (.expected "a string")

/-- A document that names a kind and a version names this one. -/
def check (k : ResourceKind) (fields : Json.Fields) : Except Json.DecodeError Unit := do
  let _ ← fields.last? "apiVersion" (exactly k.apiVersion)
  let _ ← fields.last? "kind" (exactly k.kind)

/-- The members of a document that name its kind. -/
def members (k : ResourceKind) : Json.Members :=
  Json.member "apiVersion" (.string k.apiVersion) ++ Json.member "kind" (.string k.kind)

end ResourceKind

end Provisioner
