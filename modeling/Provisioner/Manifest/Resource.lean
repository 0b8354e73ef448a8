import Provisioner.Json.Basic
import Provisioner.Text.Search
/-!
# Resources

A resource is a document that says what it is: its API version, its kind, its name and perhaps its
namespace.  Everything else in the document is kept as it is.
-/

namespace Provisioner

/-- Why a document is not a resource. -/
inductive ResourceError where
  /-- The document does not name its API version. -/
  | missingApiVersion
  /-- The document does not name its kind. -/
  | missingKind
  /-- The document, of the given kind, does not name its object. -/
  | missingName (kind : String)
deriving DecidableEq

/-- What is missing, in words. -/
def ResourceError.message : ResourceError → String
  | .missingApiVersion => "document missing apiVersion"
  | .missingKind => "document missing kind"
  | .missingName kind => kind ++ " missing metadata.name"

/-- Group and version of an API version: what stands before and after its first slash.  Without a
slash the group is the core group, whose name is empty. -/
def splitApiVersion (text : String) : String × String :=
  match Text.cutFirst '/' text with
  | some (group, version) => (group, version)
  | none => ("", text)

/-- Group and version with a slash between them; the version alone for the core group. -/
def joinApiVersion (group version : String) : String :=
  if group = "" then version else group ++ "/" ++ version

/-- A document that says what it is. -/
structure Resource where
  /-- API group; empty for the core group. -/
  group : String
  /-- Version within the group. -/
  version : String
  /-- Name of the kind. -/
  kind : String
  /-- Name of the object. -/
  name : String
  /-- Namespace of the object, unless it is not given or empty. -/
  ns : Option String
  /-- The whole document. -/
  body : Json
deriving DecidableEq

namespace Resource

/-- The text under a path of member names. -/
def textAt? (path : List String) (document : Json) : Option String :=
  (document.at? path).bind Json.string?

/-- The resource of a document. -/
def ofJson (document : Json) : Except ResourceError Resource :=
  match textAt? ["apiVersion"] document with
  | none => .error .missingApiVersion
  | some apiVersion =>
    match textAt? ["kind"] document with
    | none => .error .missingKind
    | some kind =>
      match textAt? ["metadata", "name"] document with
      | none => .error (.missingName kind)
      | some name =>
        let (group, version) := splitApiVersion apiVersion
        let ns := (textAt? ["metadata", "namespace"] document).filter fun ns => ns != ""
        .ok { group, version, kind, name, ns, body := document }

/-- The API version of a resource. -/
def apiVersion (r : Resource) : String := joinApiVersion r.group r.version

/-- Kind, namespace and name with slashes between them. -/
def displayName (r : Resource) : String :=
  match r.ns with
  | some ns => r.kind ++ "/" ++ ns ++ "/" ++ r.name
  | none => r.kind ++ "/" ++ r.name

/-- Whether a resource is of a group, version and kind. -/
def isKind (group version kind : String) (r : Resource) : Bool :=
  r.group == group && r.version == version && r.kind == kind

end Resource

end Provisioner
