import Provisioner.Cluster.Write
import Provisioner.Proofs.Cluster.Watch
import Provisioner.Proofs.Json.Entries
/-!
# What is written of database clusters

A database cluster that is created or changed is applied as one object.  It says what the cluster
says under all paths, but for the places that the server fills in, where it says nothing, and for
the annotation that a new cluster is marked with.  A restart applies an object of its own, which
does not depend on the cluster that was found.
-/

namespace Provisioner

open Program
open Json (Ascending)
open Resource (textAt?)

/-- The path neither leads to one of the places nor into it. -/
def Apart (places : List (List String)) (path : List String) : Prop :=
  ∀ place ∈ places, ¬ path <+: place ∧ ¬ place <+: path

instance (places : List (List String)) (path : List String) : Decidable (Apart places path) :=
  inferInstanceAs (Decidable (∀ place ∈ places, ¬ path <+: place ∧ ¬ place <+: path))

lemma apart_append_iff {places places' : List (List String)} {path : List String} :
    Apart (places ++ places') path ↔ Apart places path ∧ Apart places' path :=
  List.forall_mem_append

namespace ObjectMeta

/-- The members of metadata that the server fills in. -/
def filledIn : List String :=
  ["managedFields", "resourceVersion", "uid", "creationTimestamp", "generation"]

variable {m : ObjectMeta}

lemma get?_annotations (m : ObjectMeta) :
    m.encode.get? "annotations" = m.annotations.map TextMap.encode := by
  simp [encode]

/-- Annotations that are read are sorted. -/
lemma ascending_of_decode {document : Json} (hread : ObjectMeta.decode document = .ok m)
    {texts : TextMap} (htexts : m.annotations = some texts) : Ascending texts := by
  obtain ⟨fields, -, hthen⟩ := bind_eq_ok_iff.mp hread
  obtain ⟨annotations, hannotations, hthen⟩ := bind_eq_ok_iff.mp hthen
  -- fourteen more fields are read after the annotations, and none of them changes those
  simp only [Bind.bind, bind_eq_ok_iff] at hthen
  obtain ⟨_, -, _, -, _, -, _, -, _, -, _, -, _, -, _, -, _, -, _, -, hthen⟩ := hthen
  obtain ⟨_, -, _, -, _, -, _, -, hend⟩ := hthen
  cases hend
  obtain ⟨rfl, -⟩ | ⟨value, given, -, -, hgiven, rfl⟩ := Json.optional_eq_ok hannotations
  · cases htexts
  · cases htexts
    exact Json.ascending_of_map hgiven

end ObjectMeta

namespace DatabaseCluster

variable {c : DatabaseCluster} {path : List String}

/-! ## The document of a cluster -/

/-- The places of a document that the server fills in. -/
def filledIn : List (List String) := [["status"], ["metadata", "managedFields"],
  ["metadata", "resourceVersion"], ["metadata", "uid"], ["metadata", "creationTimestamp"],
  ["metadata", "generation"]]

/-- The annotations of a cluster are sorted by name. -/
def Ordered (c : DatabaseCluster) : Prop := ∀ texts, c.metadata.annotations = some texts →
  Ascending texts

/-- A cluster that is read has its annotations in order. -/
lemma ordered_of_decode {document : Json} (hread : decode document = .ok c) : c.Ordered := by
  obtain ⟨fields, -, hthen⟩ := bind_eq_ok_iff.mp hread
  simp only [Bind.bind, bind_eq_ok_iff] at hthen
  obtain ⟨_, -, _, -, m, hm, _, -, _, -, hend⟩ := hthen
  cases hend
  obtain ⟨metadata, -, hmetadata⟩ := Json.required_eq_ok hm
  intro texts htexts
  exact ObjectMeta.ascending_of_decode hmetadata htexts

lemma get?_metadata (c : DatabaseCluster) : c.encode.get? "metadata" = some c.metadata.encode := by
  simp [encode, encodeObject]

lemma at?_metadata (c : DatabaseCluster) (path : List String) :
    c.encode.at? ("metadata" :: path) = c.metadata.encode.at? path := by
  rw [Json.at?_cons, get?_metadata, Option.bind_some]

lemma get?_forApply {name : String} (hmetadata : name ≠ "metadata") (hstatus : name ≠ "status") :
    c.forApply.encode.get? name = c.encode.get? name := by
  simp [encode, encodeObject, forApply, Ne.symm hmetadata, Ne.symm hstatus]

lemma get?_metadata_forApply {name : String} (hname : name ∉ ObjectMeta.filledIn) :
    c.forApply.metadata.encode.get? name = c.metadata.encode.get? name := by
  simp only [ObjectMeta.filledIn, List.mem_cons, List.not_mem_nil, or_false, not_or] at hname
  obtain ⟨hfields, hversion, huid, hcreation, hgeneration⟩ := hname
  simp [ObjectMeta.encode, forApply, Ne.symm hfields, Ne.symm hversion, Ne.symm huid,
    Ne.symm hcreation, Ne.symm hgeneration]

lemma get?_metadata_forApply_filledIn {name : String} (hname : name ∈ ObjectMeta.filledIn) :
    c.forApply.metadata.encode.get? name = none := by
  simp only [ObjectMeta.filledIn, List.mem_cons, List.not_mem_nil, or_false] at hname
  rcases hname with rfl | rfl | rfl | rfl | rfl <;> simp [ObjectMeta.encode, forApply]

/-- A cluster that is to be applied says nothing where the server fills something in. -/
lemma at?_forApply_filledIn (c : DatabaseCluster) (hpath : path ∈ filledIn) :
    c.forApply.encode.at? path = none := by
  have hmetadata : ∀ name ∈ ObjectMeta.filledIn, c.forApply.encode.at? ["metadata", name] = none := by
    intro name hname
    rw [at?_metadata, Json.at?_cons, get?_metadata_forApply_filledIn hname, Option.bind_none]
  simp only [filledIn, List.mem_cons, List.not_mem_nil, or_false] at hpath
  rcases hpath with rfl | rfl | rfl | rfl | rfl | rfl
  · simp [forApply, encode, encodeObject, ResourceKind.members]
  all_goals exact hmetadata _ (by decide)

/-- Everywhere else it says what the cluster says. -/
lemma at?_forApply (apart : Apart filledIn path) :
    c.forApply.encode.at? path = c.encode.at? path := by
  cases path with
  | nil => exact absurd List.nil_prefix (apart ["status"] (by decide)).1
  | cons name path =>
    by_cases hmetadata : name = "metadata"
    · subst hmetadata
      rw [at?_metadata, at?_metadata]
      cases path with
      | nil => exact absurd (by decide) (apart ["metadata", "uid"] (by decide)).1
      | cons key path =>
        have hkey : key ∉ ObjectMeta.filledIn := by
          intro hkey
          have hplace : ["metadata", key] ∈ filledIn := by
            simp only [ObjectMeta.filledIn, List.mem_cons, List.not_mem_nil, or_false] at hkey
            rcases hkey with rfl | rfl | rfl | rfl | rfl <;> decide
          exact (apart _ hplace).2 ⟨path, rfl⟩
        rw [Json.at?_cons, Json.at?_cons, get?_metadata_forApply hkey]
    · have hstatus : name ≠ "status" := by
        rintro rfl
        exact (apart ["status"] (by decide)).2 ⟨path, rfl⟩
      rw [Json.at?_cons, Json.at?_cons, get?_forApply hmetadata hstatus]

/-- Taking out what the server fills in is done by doing it once. -/
lemma forApply_forApply (c : DatabaseCluster) : c.forApply.forApply = c.forApply := rfl

/-- What the server fills in can be taken out before an annotation is set or after. -/
lemma forApply_setAnnotation (c : DatabaseCluster) (name text : String) :
    (c.setAnnotation name text).forApply = c.forApply.setAnnotation name text := rfl

/-! ## An annotation that is set -/

/-- The place of an annotation in a document. -/
def annotationPlace (name : String) : List String := ["metadata", "annotations", name]

lemma get?_setAnnotation (name text : String) {key : String} (hkey : key ≠ "metadata") :
    (c.setAnnotation name text).encode.get? key = c.encode.get? key := by
  simp [encode, encodeObject, setAnnotation, Ne.symm hkey]

lemma get?_metadata_setAnnotation (name text : String) {key : String}
    (hkey : key ≠ "annotations") :
    (c.setAnnotation name text).metadata.encode.get? key = c.metadata.encode.get? key := by
  simp [ObjectMeta.encode, setAnnotation, Ne.symm hkey]

/-- What stands under the annotation of a name. -/
lemma at?_annotations (c : DatabaseCluster) (key : String) (path : List String) :
    c.encode.at? ("metadata" :: "annotations" :: key :: path) =
      ((c.metadata.annotations.map TextMap.encode).bind (Json.get? key)).bind (Json.at? path) := by
  rw [at?_metadata, Json.at?_cons, ObjectMeta.get?_annotations, Option.bind_assoc]
  rfl

/-- An annotation that is set is the only one that is changed. -/
lemma bind_get?_setAnnotation (ordered : c.Ordered) (name text key : String) :
    ((c.setAnnotation name text).metadata.annotations.map TextMap.encode).bind (Json.get? key) =
      if key = name then some (.string text)
      else (c.metadata.annotations.map TextMap.encode).bind (Json.get? key) := by
  have hset : (c.setAnnotation name text).metadata.annotations =
      some ((c.metadata.annotations.getD []).set name text) := rfl
  have hascending : Ascending (c.metadata.annotations.getD []) := by
    cases htexts : c.metadata.annotations with
    | none => exact List.Pairwise.nil
    | some texts => exact ordered texts htexts
  rw [hset, Option.map_some, Option.bind_some, TextMap.encode, TextMap.set,
    Json.get?_ofMap_setEntry hascending]
  -- Without annotations the new one is set among none.
  cases c.metadata.annotations <;> rfl

lemma at?_setAnnotation_self (ordered : c.Ordered) (name text : String) :
    (c.setAnnotation name text).encode.at? (annotationPlace name) = some (.string text) := by
  rw [annotationPlace, at?_annotations, bind_get?_setAnnotation ordered, if_pos rfl,
    Option.bind_some, Json.at?_nil]

/-- Setting an annotation changes nothing elsewhere. -/
lemma at?_setAnnotation (ordered : c.Ordered) {name : String} (text : String)
    (apart : Apart [annotationPlace name] path) :
    (c.setAnnotation name text).encode.at? path = c.encode.at? path := by
  obtain ⟨habove, hbelow⟩ := apart (annotationPlace name) List.mem_cons_self
  match path with
  | [] => exact absurd List.nil_prefix habove
  | first :: path =>
    by_cases hfirst : first = "metadata"
    · subst hfirst
      match path with
      | [] => exact absurd ⟨["annotations", name], rfl⟩ habove
      | second :: path =>
        by_cases hsecond : second = "annotations"
        · subst hsecond
          match path with
          | [] => exact absurd ⟨[name], rfl⟩ habove
          | key :: path =>
            have hkey : key ≠ name := by
              rintro rfl
              exact hbelow ⟨path, rfl⟩
            rw [at?_annotations, at?_annotations, bind_get?_setAnnotation ordered, if_neg hkey]
        · rw [at?_metadata, at?_metadata, Json.at?_cons, Json.at?_cons,
            get?_metadata_setAnnotation name text hsecond]
    · rw [Json.at?_cons, Json.at?_cons, get?_setAnnotation name text hfirst]

/-! ## What a cluster is as a resource -/

lemma textAt?_encode (c : DatabaseCluster) :
    textAt? ["apiVersion"] c.encode = some "dbaas.percona.com/v1" ∧
      textAt? ["kind"] c.encode = some "DatabaseCluster" ∧
      textAt? ["metadata", "name"] c.encode = c.metadata.name ∧
      textAt? ["metadata", "namespace"] c.encode = c.metadata.ns := by
  have hversion : kind.apiVersion = "dbaas.percona.com/v1" := by decide +kernel
  refine ⟨?_, ?_, ?_, ?_⟩
  · simp [textAt?, encode, encodeObject, ResourceKind.members, hversion]
  · simp [textAt?, encode, encodeObject, ResourceKind.members, kind]
  · rw [textAt?, at?_metadata]
    cases hname : c.metadata.name <;> simp [ObjectMeta.encode, hname]
  · rw [textAt?, at?_metadata]
    cases hns : c.metadata.ns <;> simp [ObjectMeta.encode, hns]

/-- The resource of a cluster that has a name. -/
def resource (c : DatabaseCluster) (name : String) : Resource where
  group := "dbaas.percona.com"
  version := "v1"
  kind := "DatabaseCluster"
  name := name
  ns := c.metadata.ns.filter (· != "")
  body := c.encode

lemma ofJson_encode (c : DatabaseCluster) :
    Resource.ofJson c.encode =
      match c.metadata.name with
      | some name => .ok (c.resource name)
      | none => .error (.missingName "DatabaseCluster") := by
  obtain ⟨hversion, hkind, hname, hns⟩ := textAt?_encode c
  have hsplit : splitApiVersion "dbaas.percona.com/v1" = ("dbaas.percona.com", "v1") := by
    decide +kernel
  rw [Resource.ofJson, hversion, hkind, hname, hns]
  simp only [hsplit]
  cases c.metadata.name <;> rfl

end DatabaseCluster

/-! ## What is applied -/

namespace Cluster

open DatabaseCluster (filledIn annotationPlace)

variable {σ : Type} {h : Handler Platform σ} {now : Duration} {s : σ} {log : List (Event Platform)}
  {o : Outcome σ Error Unit} {c : DatabaseCluster} {key : ObjectKey}

/-- The resource is the object of a cluster without what the server fills in: it says nothing there,
and what the cluster says everywhere else, but for some places. -/
structure Cleaned (c : DatabaseCluster) (places : List (List String)) (r : Resource) : Prop where
  /-- What the resource is, is what its document says. -/
  document : Resource.ofJson r.body = .ok r
  kind : r.isKind "dbaas.percona.com" "v1" "DatabaseCluster" = true
  named : c.metadata.name = some r.name
  filledIn : ∀ place ∈ filledIn, r.body.at? place = none
  kept : ∀ path, Apart (places ++ DatabaseCluster.filledIn) path →
    r.body.at? path = c.encode.at? path

/-- Beyond that, the resource is marked as managed from outside. -/
structure Marked (c : DatabaseCluster) (r : Resource) : Prop
    extends Cleaned c [annotationPlace "dbaas.percona.com/managed-by"] r where
  mark : r.body.at? (annotationPlace "dbaas.percona.com/managed-by") = some (.string "pmm")

/-- What the change of a cluster calls, and how it ends: one object is applied, unless the cluster
has no name. -/
inductive Declared (c : DatabaseCluster) (fits : Resource → Prop) :
    List (Event Platform) → Option (Except Error Unit) → Prop
  | nameless (missing : c.metadata.name = none) :
      Declared c fits [] (some (.error (.manifest "DatabaseCluster missing metadata.name")))
  | applied {r : Resource} {reply : Except Error Unit} {start : Duration}
      (fit : fits r) : Declared c fits [.ofCall (.applyResource r) reply start] (some reply)

/-- The object that asks for a restart: it says which cluster is meant, and that it is to be
restarted. -/
def restartObject (key : ObjectKey) : Resource where
  group := "dbaas.percona.com"
  version := "v1"
  kind := "DatabaseCluster"
  name := key.name
  ns := (some key.ns).filter (· != "")
  body := .object [("apiVersion", .string "dbaas.percona.com/v1"),
    ("kind", .string "DatabaseCluster"),
    ("metadata", .object [
      ("annotations", .object [("dbaas.percona.com/restart", .string "true")]),
      ("name", .string key.name), ("namespace", .string key.ns)])]

/-- What a restart calls, and how it ends: the cluster must be found, and nothing of it goes into
what is applied. -/
inductive Restarted (key : ObjectKey) :
    List (Event Platform) → Option (Except Error Unit) → Prop
  | missing {e : Error} {start : Duration} :
      Restarted key [.ofCall (.getDatabaseCluster key) (.error e) start] (some (.error e))
  | asked {c : DatabaseCluster} {reply : Except Error Unit} {start later : Duration} :
      Restarted key [.ofCall (.getDatabaseCluster key) (.ok c) start,
        .ofCall (.applyResource (restartObject key)) reply later] (some reply)

lemma cleaned_forApply {name : String} (hname : c.metadata.name = some name) :
    Cleaned c [] (c.forApply.resource name) where
  document := by
    have hdocument := c.forApply.ofJson_encode
    rw [show c.forApply.metadata.name = some name from hname] at hdocument
    exact hdocument
  kind := rfl
  named := hname
  filledIn place hplace := c.at?_forApply_filledIn hplace
  kept path apart := DatabaseCluster.at?_forApply apart

/-- Marking a cluster takes nothing else from what is applied of it. -/
lemma marked_forApply {name : String} (ordered : c.Ordered) (hname : c.metadata.name = some name) :
    Marked c (((c.setAnnotation "dbaas.percona.com/managed-by" "pmm").forApply).resource name) := by
  have hmarked := cleaned_forApply
    (show (c.setAnnotation "dbaas.percona.com/managed-by" "pmm").metadata.name = some name from hname)
  have hplace : Apart filledIn (annotationPlace "dbaas.percona.com/managed-by") := by
    simp [Apart, DatabaseCluster.filledIn, annotationPlace]
  exact {
    document := hmarked.document
    kind := hmarked.kind
    named := hname
    filledIn := hmarked.filledIn
    kept := by
      intro path apart
      obtain ⟨hmark, hfilled⟩ := apart_append_iff.mp apart
      rw [hmarked.kept path hfilled, DatabaseCluster.at?_setAnnotation ordered "pmm" hmark]
    mark := by
      rw [hmarked.kept _ hplace]
      exact DatabaseCluster.at?_setAnnotation_self ordered _ _ }

/-- What is applied of a copy of a cluster with the same name. -/
lemma declared_of_runs {copy : DatabaseCluster} {fits : Resource → Prop}
    (hname : copy.metadata.name = c.metadata.name)
    (fit : ∀ name, c.metadata.name = some name → fits (copy.resource name))
    (hr : Runs h ((resource copy.encode).bind fun r => (Call.applyResource r).perform) now s log o) :
    Declared c fits log o.result := by
  rw [resource, copy.ofJson_encode, hname] at hr
  cases hnamed : c.metadata.name with
  | none =>
    rw [hnamed] at hr
    obtain ⟨rfl, rfl⟩ := runs_fail_iff.mp hr
    exact .nameless hnamed
  | some name =>
    rw [hnamed] at hr
    obtain ⟨reply, finish, t, rfl, rfl⟩ := runs_perform hr
    exact .applied (fit name hnamed)

/-- The object that asks for a restart is the document that is written for it. -/
lemma resource_restartDocument (key : ObjectKey) :
    resource (restartDocument key) = .done (restartObject key) := by
  have hbody : restartDocument key = (restartObject key).body := rfl
  have hsplit : splitApiVersion "dbaas.percona.com/v1" = ("dbaas.percona.com", "v1") := by
    decide +kernel
  have hdocument : Resource.ofJson (restartObject key).body = .ok (restartObject key) := by
    simp [Resource.ofJson, restartObject, textAt?, Json.get?, Json.Members.find?, hsplit]
  rw [resource, hbody, hdocument]
  rfl

lemma restarted_of_runs (hr : Runs h (restartDatabaseCluster key) now s log o) :
    Restarted key log o.result := by
  rcases runs_perform_bind hr with ⟨c, mid, t, rest, hrest, rfl⟩ | ⟨e, finish, t, rfl, rfl⟩
  · rw [bind_eq, resource_restartDocument, done_bind] at hrest
    obtain ⟨reply, finish, u, rfl, rfl⟩ := runs_perform hrest
    exact .asked
  · exact .missing

/-- **A change of a database cluster touches only what it should.**  Whatever the cluster answers, a
new database cluster is applied as one object, which says nothing in the places that the server
fills in, is marked, and says what the database cluster says everywhere else; one that is changed is
applied so without a mark.  Without a name nothing is applied.  Taking out what the server fills in
is done by doing it once, and annotations can be set before or after.  A restart applies nothing
unless the database cluster is found, and then one object that only the name and the namespace go
into.  Annotations are sorted in every database cluster that is read. -/
theorem database_cluster_writes (h : Handler Platform σ) (now : Duration) (s : σ) :
    (∀ c : DatabaseCluster, c.Ordered → Declared c (Marked c)
      (trace h (createDatabaseCluster c) now s) (run h (createDatabaseCluster c) now s).result) ∧
    (∀ c : DatabaseCluster, Declared c (Cleaned c [])
      (trace h (patchDatabaseCluster c) now s) (run h (patchDatabaseCluster c) now s).result) ∧
    (∀ c : DatabaseCluster, c.forApply.forApply = c.forApply ∧
      ∀ name text, (c.setAnnotation name text).forApply = c.forApply.setAnnotation name text) ∧
    (∀ key, Restarted key (trace h (restartDatabaseCluster key) now s)
      (run h (restartDatabaseCluster key) now s).result) ∧
    ∀ document c, DatabaseCluster.decode document = .ok c → c.Ordered := by
  refine ⟨fun c ordered => ?_, fun c => ?_, fun c => ?_, fun key => ?_, fun document c hread => ?_⟩
  · have hname : (c.setAnnotation "dbaas.percona.com/managed-by" "pmm").forApply.metadata.name =
        c.metadata.name := rfl
    exact declared_of_runs hname (fun name hname => marked_forApply ordered hname)
      (runs_self h (createDatabaseCluster c) now s)
  · have hname : c.forApply.metadata.name = c.metadata.name := rfl
    exact declared_of_runs hname (fun name hname => cleaned_forApply hname)
      (runs_self h (patchDatabaseCluster c) now s)
  · exact ⟨c.forApply_forApply, c.forApply_setAnnotation⟩
  · exact restarted_of_runs (runs_self h (restartDatabaseCluster key) now s)
  · exact DatabaseCluster.ordered_of_decode hread

/-- A database cluster as the server has it, with an annotation and a label of its own. -/
def fetched : DatabaseCluster where
  metadata := { name := some "orders", ns := some "db", uid := some "u", generation := some 3
                annotations := some [("team", "a")], labels := some [("tier", "b")] }
  spec := { databaseType := some "pxc" }
  status := some {}

/-- What is applied of it is marked, and keeps both. -/
theorem database_cluster_writes_fetched :
    fetched.Ordered ∧ ∃ r reply start,
      trace (answering fun _ => .error (.notFound "")) (createDatabaseCluster fetched) 0 () =
        [.ofCall (.applyResource r) reply start] ∧
      r.body.at? ["metadata", "uid"] = none ∧ r.body.at? ["status"] = none ∧
      r.body.at? ["metadata", "annotations", "dbaas.percona.com/managed-by"] =
        some (.string "pmm") ∧
      r.body.at? ["metadata", "annotations", "team"] = some (.string "a") ∧
      r.body.at? ["metadata", "labels", "tier"] = some (.string "b") := by
  have hordered : fetched.Ordered := by
    rintro _ ⟨⟩
    decide
  have hdeclared := (database_cluster_writes (answering fun _ => .error (.notFound "")) 0 ()).1
    fetched hordered
  generalize trace _ _ _ _ = log at hdeclared ⊢
  generalize (run _ _ _ _).result = result at hdeclared
  cases hdeclared with
  | nameless missing => cases missing
  | @applied r reply start fit =>
    have hteam : fetched.encode.at? ["metadata", "annotations", "team"] = some (.string "a") := by
      decide +kernel
    have htier : fetched.encode.at? ["metadata", "labels", "tier"] = some (.string "b") := by
      decide +kernel
    exact ⟨hordered, r, reply, start, rfl, fit.filledIn _ (by decide), fit.filledIn _ (by decide),
      fit.mark, (fit.kept _ (by decide)).trans hteam, (fit.kept _ (by decide)).trans htier⟩

end Cluster

end Provisioner
