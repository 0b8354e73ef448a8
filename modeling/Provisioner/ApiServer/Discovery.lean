import Provisioner.ApiServer.Request
import Provisioner.Kube.Kind
import Provisioner.Manifest.Resource
/-!
# Kinds that a server knows

Where a resource belongs on the server is not told by the resource itself: the server is asked for
the kinds of its group and version.
-/

namespace Provisioner.ApiServer

open Json (Decoder Fields)

/-- A kind of object, or a part of the objects of a kind, as the server lists it. -/
structure KindEntry where
  /-- Name of the collection; that of a part has a slash in it. -/
  name : String
  kind : String
  namespaced : Bool
  /-- The group, when it is not that of the list. -/
  group : Option String

/-- The kinds of a group and version. -/
structure KindList where
  /-- Group and version with a slash between them. -/
  groupVersion : String
  entries : List KindEntry

/-- Read an entry of a list of kinds. -/
def KindEntry.decode : Decoder KindEntry := fun value => do
  let fields ← Fields.opened value
  let texts := Decoder.list Decoder.string
  let _ ← fields.optional "categories" texts
  let _ ← fields.optional "shortNames" texts
  let _ ← fields.optional "verbs" texts
  let _ ← fields.optional "singularName" Decoder.string
  let _ ← fields.optional "storageVersionHash" Decoder.string
  let _ ← fields.optional "version" Decoder.string
  return {
    name := ← fields.lenient "name" Decoder.string ""
    kind := ← fields.lenient "kind" Decoder.string ""
    namespaced := ← fields.lenient "namespaced" Decoder.bool false
    group := ← fields.optional "group" Decoder.string }

/-- Lists of kinds. -/
def KindList.kind : ResourceKind :=
  { group := "", version := "v1", kind := "APIResourceList", plural := "", namespaced := false }

/-- Read a list of kinds. -/
def KindList.decode : Decoder KindList := fun value => do
  let fields ← Fields.opened value
  KindList.kind.check fields
  return {
    groupVersion := ← fields.lenient "groupVersion" Decoder.string ""
    entries := ← fields.lenient "resources" (Decoder.list KindEntry.decode) [] }

/-- The group of an entry: its own, or that of the list. -/
def KindList.groupOf (kinds : KindList) (entry : KindEntry) : String :=
  entry.group.getD (splitApiVersion kinds.groupVersion).1

/-- Group and version of a list as they stand in a path. -/
def KindList.apiVersion (kinds : KindList) : String :=
  let (group, version) := splitApiVersion kinds.groupVersion
  joinApiVersion group version

/-- Whether the first entry of a name says that objects live in a namespace. -/
def KindList.isNamespaced (kinds : KindList) (name : String) : Bool :=
  ((kinds.entries.find? fun entry => entry.name == name).map (·.namespaced)).getD false

/-- The collection that a resource belongs to: that of the first entry of its kind which is not a
part of another one.  A resource that has no namespace where one is needed is in the default
one. -/
def KindList.collection? (kinds : KindList) (r : Resource) : Option Collection :=
  (kinds.entries.find? fun entry => entry.kind == r.kind && !entry.name.toList.contains '/').map
    fun entry => {
      group := kinds.groupOf entry, apiVersion := kinds.apiVersion, plural := entry.name,
      ns := if kinds.isNamespaced entry.name then some (r.ns.getD "default") else none }

end Provisioner.ApiServer
