import Provisioner.Json.Fields
import Provisioner.Timestamp
/-!
# Object metadata

What every object of the API server carries: its identity, the annotations and labels put on it,
and the parts that the server fills in.  A part that is absent stays apart from one that is empty.
-/

namespace Provisioner

/-- Names and texts, sorted by name. -/
abbrev TextMap := List (String × String)

/-- Which manager owns which fields of an object. -/
structure ManagedFields where
  apiVersion : Option String := none
  fieldsType : Option String := none
  fields : Option Json := none
  manager : Option String := none
  operation : Option String := none
  subresource : Option String := none
  time : Option Timestamp := none
deriving DecidableEq

/-- An object that another one belongs to. -/
structure OwnerReference where
  apiVersion : String
  blockOwnerDeletion : Option Bool := none
  controller : Option Bool := none
  kind : String
  name : String
  uid : String
deriving DecidableEq

/-- Metadata of an object. -/
structure ObjectMeta where
  annotations : Option TextMap := none
  creationTimestamp : Option Timestamp := none
  deletionGracePeriodSeconds : Option Int := none
  deletionTimestamp : Option Timestamp := none
  finalizers : Option (List String) := none
  generateName : Option String := none
  generation : Option Int := none
  labels : Option TextMap := none
  managedFields : Option (List ManagedFields) := none
  name : Option String := none
  ns : Option String := none
  ownerReferences : Option (List OwnerReference) := none
  resourceVersion : Option String := none
  selfLink : Option String := none
  uid : Option String := none
deriving DecidableEq

open Json (Decoder Fields DecodeError member member?)

/-- A point in time is a string. -/
def Timestamp.decode : Decoder Timestamp
  | .string s =>
    match Timestamp.ofString? s with
    | some t => .ok t
    | none => .error (.expected "a point in time")
  | _ => .error (.expected "a string")

/-- A point in time is written as its text. -/
def Timestamp.encode (t : Timestamp) : Json := .string t.text

/-- Texts by name. -/
def TextMap.decode : Decoder TextMap := Decoder.map Decoder.string

/-- Texts by name are an object. -/
def TextMap.encode (texts : TextMap) : Json := Json.ofMap .string texts

/-- Texts by name with one more set. -/
def TextMap.set (name text : String) (texts : TextMap) : TextMap := Decoder.setEntry name text texts

namespace ManagedFields

/-- Read an entry. -/
def decode : Decoder ManagedFields := fun value => do
  let fields ← Fields.opened value
  return {
    apiVersion := ← fields.optional "apiVersion" Decoder.string
    fieldsType := ← fields.optional "fieldsType" Decoder.string
    fields := ← fields.optional "fieldsV1" Decoder.any
    manager := ← fields.optional "manager" Decoder.string
    operation := ← fields.optional "operation" Decoder.string
    subresource := ← fields.optional "subresource" Decoder.string
    time := ← fields.optional "time" Timestamp.decode }

/-- Write an entry. -/
def encode (m : ManagedFields) : Json :=
  Json.ofMembers (member? "apiVersion" .string m.apiVersion ++
    member? "fieldsType" .string m.fieldsType ++ member? "fieldsV1" id m.fields ++
    member? "manager" .string m.manager ++ member? "operation" .string m.operation ++
    member? "subresource" .string m.subresource ++ member? "time" Timestamp.encode m.time)

end ManagedFields

namespace OwnerReference

/-- Read a reference; parts that are absent are empty. -/
def decode : Decoder OwnerReference := fun value => do
  let fields ← Fields.opened value
  return {
    apiVersion := ← fields.lenient "apiVersion" Decoder.string ""
    blockOwnerDeletion := ← fields.optional "blockOwnerDeletion" Decoder.bool
    controller := ← fields.optional "controller" Decoder.bool
    kind := ← fields.lenient "kind" Decoder.string ""
    name := ← fields.lenient "name" Decoder.string ""
    uid := ← fields.lenient "uid" Decoder.string "" }

/-- Write a reference. -/
def encode (r : OwnerReference) : Json :=
  Json.ofMembers (member "apiVersion" (.string r.apiVersion) ++
    member? "blockOwnerDeletion" .bool r.blockOwnerDeletion ++
    member? "controller" .bool r.controller ++ member "kind" (.string r.kind) ++
    member "name" (.string r.name) ++ member "uid" (.string r.uid))

end OwnerReference

namespace ObjectMeta

/-- Read metadata. -/
def decode : Decoder ObjectMeta := fun value => do
  let fields ← Fields.opened value
  return {
    annotations := ← fields.optional "annotations" TextMap.decode
    creationTimestamp := ← fields.optional "creationTimestamp" Timestamp.decode
    deletionGracePeriodSeconds := ← fields.optional "deletionGracePeriodSeconds" Decoder.int64
    deletionTimestamp := ← fields.optional "deletionTimestamp" Timestamp.decode
    finalizers := ← fields.optional "finalizers" (Decoder.list Decoder.string)
    generateName := ← fields.optional "generateName" Decoder.string
    generation := ← fields.optional "generation" Decoder.int64
    labels := ← fields.optional "labels" TextMap.decode
    managedFields := ← fields.optional "managedFields" (Decoder.list ManagedFields.decode)
    name := ← fields.optional "name" Decoder.string
    ns := ← fields.optional "namespace" Decoder.string
    ownerReferences := ← fields.optional "ownerReferences" (Decoder.list OwnerReference.decode)
    resourceVersion := ← fields.optional "resourceVersion" Decoder.string
    selfLink := ← fields.optional "selfLink" Decoder.string
    uid := ← fields.optional "uid" Decoder.string }

/-- Write metadata. -/
def encode (m : ObjectMeta) : Json :=
  Json.ofMembers (member? "annotations" TextMap.encode m.annotations ++
    member? "creationTimestamp" Timestamp.encode m.creationTimestamp ++
    member? "deletionGracePeriodSeconds" .int m.deletionGracePeriodSeconds ++
    member? "deletionTimestamp" Timestamp.encode m.deletionTimestamp ++
    member? "finalizers" (Json.ofList .string) m.finalizers ++
    member? "generateName" .string m.generateName ++ member? "generation" .int m.generation ++
    member? "labels" TextMap.encode m.labels ++
    member? "managedFields" (Json.ofList ManagedFields.encode) m.managedFields ++
    member? "name" .string m.name ++ member? "namespace" .string m.ns ++
    member? "ownerReferences" (Json.ofList OwnerReference.encode) m.ownerReferences ++
    member? "resourceVersion" .string m.resourceVersion ++
    member? "selfLink" .string m.selfLink ++ member? "uid" .string m.uid)

end ObjectMeta

/-- Namespace and name of an object. -/
structure ObjectKey where
  /-- The namespace. -/
  ns : String
  /-- The name. -/
  name : String
deriving DecidableEq

/-- Namespace and name with a slash between them. -/
def ObjectKey.text (key : ObjectKey) : String := key.ns ++ "/" ++ key.name

end Provisioner
