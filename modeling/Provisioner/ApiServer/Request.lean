import Provisioner.ClientError
import Provisioner.Http
import Provisioner.Http.Target
import Provisioner.Kube.Kind
/-!
# Requests to the API server

Where the objects of a kind are found on the server, and the requests that read and change them.
A request for a single object needs the name of one.
-/

namespace Provisioner.ApiServer

open Http (Request)

/-- The objects of a kind, in a namespace or in all of the cluster. -/
structure Collection where
  /-- API group; empty for the core group. -/
  group : String
  /-- Group and version as they stand in a path. -/
  apiVersion : String
  /-- Name of the collection. -/
  plural : String
  /-- The namespace, if it is only one. -/
  ns : Option String
deriving DecidableEq

namespace Collection

/-- The objects of a kind. -/
def ofKind (kind : ResourceKind) (ns : Option String) : Collection where
  group := kind.group
  apiVersion := kind.apiVersion
  plural := kind.plural
  ns := ns

/-- The path of a collection. -/
def path (c : Collection) : String :=
  "/" ++ (if c.group = "" then "api" else "apis") ++ "/" ++ c.apiVersion ++ "/" ++
    ((c.ns.map fun ns => "namespaces/" ++ ns ++ "/").getD "") ++ c.plural

/-- The path of an object. -/
def objectPath (c : Collection) (name : String) : String := c.path ++ "/" ++ name

end Collection

/-- A request, if its path is one. -/
def request (method : Http.Method) (path : String) (query : List (String × String))
    (contentType : Option String) (body : Option Json) : Except ClientError Request :=
  match Http.target? path query with
  | some (target, query) => .ok { method, target, query, contentType, body }
  | none => .error (.buildRequest "invalid uri character")

/-- A request for something that has to have a name. -/
def named (name : String) (form : Except ClientError Request) : Except ClientError Request :=
  if name = "" then .error (.buildRequest "a non-empty name is required") else form

/-- Read from a path with parameters. -/
def getPath (path : String) (query : List (String × String)) : Except ClientError Request :=
  request .get path query none none

/-- Read from a path with nothing after it. -/
def getBare (path : String) : Except ClientError Request :=
  match Http.bare? path with
  | some (target, query) =>
    .ok { method := .get, target, query, contentType := none, body := none }
  | none => .error (.buildRequest "invalid uri character")

/-- Read an object. -/
def getObject (c : Collection) (name : String) : Except ClientError Request :=
  named name (getBare (c.objectPath name))

/-- List a collection. -/
def listObjects (c : Collection) (query : List (String × String)) : Except ClientError Request :=
  getPath c.path query

/-- Read the log of a container of a pod. -/
def getLog (pods : Collection) (name container : String) : Except ClientError Request :=
  named name (getPath (pods.objectPath name ++ "/log") [("container", container)])

/-- Create an object. -/
def postObject (c : Collection) (body : Json) : Except ClientError Request :=
  request .post c.path [] (some "application/json") (some body)

/-- Who owns the fields that this library applies. -/
def fieldManager : String := "everest-provisioner"

/-- Apply an object: the server merges it, and fields of other owners are taken over. -/
def applyObject (c : Collection) (name : String) (body : Json) : Except ClientError Request :=
  named name (request .patch (c.objectPath name)
    [("force", "true"), ("fieldManager", fieldManager)]
    (some "application/apply-patch+yaml") (some body))

/-- Change parts of an object. -/
def mergeObject (c : Collection) (name : String) (body : Json) : Except ClientError Request :=
  named name (request .patch (c.objectPath name) []
    (some "application/merge-patch+json") (some body))

/-- Delete an object. -/
def deleteObject (c : Collection) (name : String) : Except ClientError Request :=
  named name (request .delete (c.objectPath name) [] (some "application/json")
    (some (.object [])))

/-- List the kinds of a group and version. -/
def listKinds (group version : String) : Except ClientError Request :=
  match getBare ((if group = "" then "/api/" else "/apis/" ++ group ++ "/") ++ version) with
  | .ok request => .ok request
  | .error _ => .error (.address "invalid uri character")

end Provisioner.ApiServer
