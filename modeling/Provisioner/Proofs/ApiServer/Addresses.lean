import Provisioner.Proofs.ApiServer.Resources
import Provisioner.Proofs.Manifest.Documents
/-!
# What a request addresses and what it carries

A resource keeps its kind, its name and its namespace beside the document that it was read from; a
request takes its address from the one and its body from the other.  They always agree: a resource
is applied at the address that its document gives under the kinds that the server lists, and it is
deleted at the same.
-/

namespace Provisioner

open Program
open Http (Request Response Unreachable)

/-! ## Resources and their documents -/

/-- What a document says it is. -/
structure Identity where
  apiVersion : String
  kind : String
  name : String
  /-- The namespace; the default one where none is given. -/
  ns : String

namespace Resource

/-- How a resource comes about: from a document, or with others from a manifest. -/
inductive IsBuilt (r : Resource) : Prop
  | ofDocument (document : Json) (read : Resource.ofJson document = .ok r)
  | ofManifest (manifest : Text.Utf8.Bytes) (resources : List Resource)
      (decoded : Manifest.decode manifest = .ok resources) (listed : r ∈ resources)

/-- The namespace that a document gives, or else the default one. -/
def namespaceOf (document : Json) : String :=
  match textAt? ["metadata", "namespace"] document with
  | some ns => if ns = "" then "default" else ns
  | none => "default"

/-- The document says that it is this. -/
structure Declares (document : Json) (i : Identity) : Prop where
  apiVersion : textAt? ["apiVersion"] document = some i.apiVersion
  kind : textAt? ["kind"] document = some i.kind
  name : textAt? ["metadata", "name"] document = some i.name
  ns : namespaceOf document = i.ns

/-- The resource is kept as this. -/
structure KeptAs (r : Resource) (i : Identity) : Prop where
  groupVersion : splitApiVersion i.apiVersion = (r.group, r.version)
  kind : r.kind = i.kind
  name : r.name = i.name
  ns : r.ns.getD "default" = i.ns

variable {r : Resource} {i : Identity}

/-- However a resource came about, its body describes it. -/
lemma IsBuilt.describes (built : r.IsBuilt) : Describes r.body r := by
  cases built with
  | ofDocument document read =>
    have hdescribes := ofJson_eq_ok_iff.mp read
    rwa [← hdescribes.body] at hdescribes
  | ofManifest manifest resources decoded listed =>
    exact Manifest.describes_body_of_mem decoded listed

lemma Describes.getD_ns {document : Json} (hdescribes : Describes document r) :
    r.ns.getD "default" = namespaceOf document := by
  rw [namespaceOf, filter_ns_iff.mpr hdescribes.ns]
  cases textAt? ["metadata", "namespace"] document with
  | none => rfl
  | some ns => by_cases hempty : ns = "" <;> simp [Option.filter, hempty]

/-- So its body says what it is kept as. -/
lemma IsBuilt.declares (built : r.IsBuilt) : ∃ i, Declares r.body i ∧ r.KeptAs i := by
  have hdescribes := built.describes
  obtain ⟨apiVersion, hversion, hsplits⟩ := hdescribes.groupVersion
  exact ⟨⟨apiVersion, r.kind, r.name, namespaceOf r.body⟩,
    ⟨hversion, hdescribes.kind, hdescribes.name, rfl⟩,
    ⟨splits_iff.mp hsplits, rfl, rfl, hdescribes.getD_ns⟩⟩

/-- Nothing that a resource is kept as ends a path. -/
structure IsPlain (r : Resource) : Prop where
  apiVersion : Http.IsPlain r.apiVersion
  name : Http.IsPlain r.name
  ns : ∀ ns, r.ns = some ns → Http.IsPlain ns

end Resource

namespace ApiServer

open Resource (Declares KeptAs)

/-! ## The addresses of an object -/

/-- The address of the kinds of a group and version; that of the core group is one of its own. -/
def kindsPath (i : Identity) : String :=
  let (group, version) := splitApiVersion i.apiVersion
  if group = "" then "/api/" ++ version else "/apis/" ++ group ++ "/" ++ version

/-- The first entry of a kind that is not a part of the objects of another one. -/
def KindList.entry? (kinds : KindList) (kind : String) : Option KindEntry :=
  kinds.entries.find? fun entry => entry.kind == kind && !entry.name.toList.contains '/'

/-- The address of the objects of a kind, in a namespace if they live in one. -/
def KindList.collectionPath (kinds : KindList) (entry : KindEntry) (ns : String) : String :=
  "/" ++ (if kinds.groupOf entry = "" then "api" else "apis") ++ "/" ++ kinds.apiVersion ++ "/" ++
    (if kinds.isNamespaced entry.name then "namespaces/" ++ ns ++ "/" else "") ++ entry.name

/-- The address of an object. -/
def objectPath (i : Identity) (kinds : KindList) (entry : KindEntry) : String :=
  kinds.collectionPath entry i.ns ++ "/" ++ i.name

/-- The kinds that an answer lists. -/
def kindsOf (reply : Except Unreachable Response) : Option KindList :=
  reply.toOption.bind fun response => (bodyOf KindList.decode response).toOption

/-- The request asks for the kinds among which the object's own is. -/
structure Asks (i : Identity) (question : Request) : Prop where
  method : question.method = .get
  target : question.target = kindsPath i
  query : question.query = []

/-- The request is for the object, under the kinds that are listed. -/
structure IsFor (i : Identity) (kinds : KindList) (entry : KindEntry) (method : Http.Method)
    (parameters : List (String × String)) (body : Json) (request : Request) : Prop where
  method : request.method = method
  body : request.body = some body
  /-- Target and query are those of the address with the parameters. -/
  parts : Http.target? (objectPath i kinds entry) parameters = some (request.target, request.query)
  /-- The target is the address, unless it is the server's own texts that end the path. -/
  target : Http.IsPlain kinds.apiVersion → Http.IsPlain entry.name →
    request.target = objectPath i kinds entry

/-- The requests for an object: the kinds are asked for, and what follows is for the object under
the first entry of its kind.  Where there is no such request, the reason is given. -/
inductive Addresses (i : Identity) (method : Http.Method) (parameters : List (String × String))
    (body : Json) : List (Event Network) → Prop
  | unasked (invalid : Http.target? (kindsPath i) [] = none) : Addresses i method parameters body []
  | unlisted {question : Request} {reply : Except Unreachable Response} {start : Duration}
      (asks : Asks i question)
      (unlisted : ∀ kinds, kindsOf reply = some kinds → kinds.entry? i.kind = none) :
      Addresses i method parameters body [⟨.apiServer question, reply, start⟩]
  | unformed {question : Request} {reply : Except Unreachable Response} {start : Duration}
      {kinds : KindList} {entry : KindEntry} (asks : Asks i question)
      (lists : kindsOf reply = some kinds) (found : kinds.entry? i.kind = some entry)
      (invalid : i.name = "" ∨ Http.target? (objectPath i kinds entry) parameters = none) :
      Addresses i method parameters body [⟨.apiServer question, reply, start⟩]
  | addressed {question request : Request} {reply answer : Except Unreachable Response}
      {start later : Duration} {kinds : KindList} {entry : KindEntry} (asks : Asks i question)
      (lists : kindsOf reply = some kinds) (found : kinds.entry? i.kind = some entry)
      (isFor : IsFor i kinds entry method parameters body request) :
      Addresses i method parameters body
        [⟨.apiServer question, reply, start⟩, ⟨.apiServer request, answer, later⟩]

variable {σ : Type} {h : Handler Network σ} {now : Duration} {s : σ} {log : List (Event Network)}
  {r : Resource} {i : Identity} {kinds : KindList} {entry : KindEntry}

/-! ## Addresses of what a resource is kept as -/

lemma kindsPath_eq (kept : r.KeptAs i) :
    kindsPath i = (if r.group = "" then "/api/" else "/apis/" ++ r.group ++ "/") ++ r.version := by
  rw [kindsPath, kept.groupVersion]
  show (if r.group = "" then _ else _) = _
  split <;> rfl

lemma isPlain_kindsPath (plain : r.IsPlain) (kept : r.KeptAs i) : Http.IsPlain (kindsPath i) := by
  have hversion := plain.apiVersion
  rw [Resource.apiVersion, joinApiVersion] at hversion
  rw [kindsPath_eq kept]
  split at hversion
  · rename_i hcore
    rw [if_pos hcore, Http.isPlain_append]
    exact ⟨by decide, hversion⟩
  · rename_i hgroup
    rw [if_neg hgroup, String.append_assoc, String.append_assoc, Http.isPlain_append]
    rw [String.append_assoc] at hversion
    exact ⟨by decide, hversion⟩

/-- The collection that an entry stands for. -/
def KindList.collectionOf (kinds : KindList) (entry : KindEntry) (ns : String) : Collection :=
  ⟨kinds.groupOf entry, kinds.apiVersion, entry.name,
    if kinds.isNamespaced entry.name then some ns else none⟩

/-- The collection of a resource is that of its kind, in its namespace. -/
lemma collection?_eq (kept : r.KeptAs i) :
    kinds.collection? r =
      (kinds.entry? i.kind).map fun entry => kinds.collectionOf entry i.ns := by
  rw [KindList.collection?, KindList.entry?, kept.kind, kept.ns]
  rfl

lemma objectPath_eq (i : Identity) (kinds : KindList) (entry : KindEntry) :
    (kinds.collectionOf entry i.ns).objectPath i.name = objectPath i kinds entry := by
  rw [objectPath, KindList.collectionPath, Collection.objectPath, Collection.path,
    KindList.collectionOf]
  cases kinds.isNamespaced entry.name <;> rfl

lemma isPlain_objectPath (plain : r.IsPlain) (kept : r.KeptAs i)
    (hversion : Http.IsPlain kinds.apiVersion) (hname : Http.IsPlain entry.name) :
    Http.IsPlain (objectPath i kinds entry) := by
  have hns : Http.IsPlain i.ns := by
    rw [← kept.ns]
    cases hns : r.ns with
    | none => decide
    | some ns => exact plain.ns ns hns
  have hobject : Http.IsPlain i.name := kept.name ▸ plain.name
  have hroot : Http.IsPlain (if kinds.groupOf entry = "" then "api" else "apis") := by
    split <;> decide
  have hinside : Http.IsPlain
      (if kinds.isNamespaced entry.name then "namespaces/" ++ i.ns ++ "/" else "") := by
    split
    · simp only [Http.isPlain_append]
      exact ⟨⟨by decide, hns⟩, by decide⟩
    · decide
  have hslash : Http.IsPlain "/" := by decide
  simp only [objectPath, KindList.collectionPath, Http.isPlain_append]
  exact ⟨⟨⟨⟨⟨⟨⟨⟨hslash, hroot⟩, hslash⟩, hversion⟩, hslash⟩, hinside⟩, hname⟩, hslash⟩, hobject⟩

/-! ## The question -/

/-- The kinds of a resource are asked for at the address that its document gives. -/
lemma listKinds_eq (plain : r.IsPlain) (kept : r.KeptAs i) :
    (∃ question, listKinds r.group r.version = .ok question ∧ Asks i question) ∨
    (∃ e, listKinds r.group r.version = .error e ∧ Http.target? (kindsPath i) [] = none) := by
  have hplain := isPlain_kindsPath plain kept
  rw [listKinds, getBare, ← kindsPath_eq kept, ← hplain.bare?_eq_target?, hplain.bare?_eq]
  by_cases hpath : (kindsPath i).toList.all Http.isPathChar = true
  · rw [if_pos hpath]
    exact .inl ⟨_, rfl, rfl, rfl, rfl⟩
  · rw [if_neg hpath]
    exact .inr ⟨_, rfl, rfl⟩

/-! ## What is sent -/

lemma kindsOf_eq (reply : Except Unreachable Response) :
    kindsOf reply = (readReply (bodyOf KindList.decode) reply).toOption := by
  cases reply <;> rfl

/-- How the look-up of the collection of a resource can go. -/
inductive Sought (r : Resource) : List (Event Network) → Outcome σ Error Collection → Prop
  | unasked {cause : ClientError} {e : Error} {finish : Duration} {t : σ}
      (invalid : listKinds r.group r.version = .error cause) :
      Sought r [] ⟨some (.error e), finish, t⟩
  | unlisted {question : Request} {reply : Except Unreachable Response} {start : Duration}
      {e : Error} {finish : Duration} {t : σ} (asks : listKinds r.group r.version = .ok question)
      (unlisted : ∀ kinds, kindsOf reply = some kinds → kinds.collection? r = none) :
      Sought r [⟨.apiServer question, reply, start⟩] ⟨some (.error e), finish, t⟩
  | found {question : Request} {reply : Except Unreachable Response} {start : Duration}
      {kinds : KindList} {c : Collection} {finish : Duration} {t : σ}
      (asks : listKinds r.group r.version = .ok question) (lists : kindsOf reply = some kinds)
      (found : kinds.collection? r = some c) :
      Sought r [⟨.apiServer question, reply, start⟩] ⟨some (.ok c), finish, t⟩

/-- The kinds are asked for, and the collection is looked up among those that are listed. -/
lemma sought_of_runs {o : Outcome σ Error Collection} (hr : Runs h (collectionOf r) now s log o) :
    Sought r log o := by
  obtain ⟨o', hlook, rfl⟩ := runs_mapError_iff.mp hr
  rw [lookUp, bind_eq] at hlook
  cases hform : listKinds r.group r.version with
  | error cause =>
    rw [hform] at hlook
    obtain ⟨rfl, rfl⟩ := runs_fail_iff.mp hlook
    exact .unasked hform
  | ok question =>
    rw [hform] at hlook
    have hlists := kindsOf_eq (h (.apiServer question) now s).reply
    rcases runs_bind hlook with ⟨kinds, mid, t, l₁, l₂, hsend, hfind, rfl⟩ |
      ⟨e, finish, t, hsend, rfl⟩ | ⟨finish, t, hsend, rfl⟩ <;>
      obtain ⟨rfl, ho⟩ := runs_send_iff.mp hsend <;>
      simp only [Outcome.mk.injEq, Option.some.injEq, reduceCtorEq, false_and] at ho <;>
      rw [← ho.1, Except.toOption] at hlists
    · cases hplace : kinds.collection? r with
      | none =>
        rw [hplace] at hfind
        obtain ⟨rfl, rfl⟩ := runs_fail_iff.mp hfind
        refine .unlisted hform fun known hknown => ?_
        obtain rfl := Option.some.inj (hlists.symm.trans hknown)
        exact hplace
      | some c =>
        rw [hplace] at hfind
        obtain ⟨rfl, rfl⟩ := runs_done_iff.mp hfind
        exact .found hform hlists hplace
    · refine .unlisted hform fun known hknown => ?_
      rw [hlists] at hknown
      cases hknown

/-- How the look-up of a collection can go, by what the resource is kept as. -/
inductive Located (i : Identity) : List (Event Network) → Outcome σ Error Collection → Prop
  | unasked {e : Error} {finish : Duration} {t : σ}
      (invalid : Http.target? (kindsPath i) [] = none) :
      Located i [] ⟨some (.error e), finish, t⟩
  | unlisted {question : Request} {reply : Except Unreachable Response} {start : Duration}
      {e : Error} {finish : Duration} {t : σ} (asks : Asks i question)
      (unlisted : ∀ kinds, kindsOf reply = some kinds → kinds.entry? i.kind = none) :
      Located i [⟨.apiServer question, reply, start⟩] ⟨some (.error e), finish, t⟩
  | listed {question : Request} {reply : Except Unreachable Response} {start : Duration}
      {kinds : KindList} {entry : KindEntry} {finish : Duration} {t : σ} (asks : Asks i question)
      (lists : kindsOf reply = some kinds) (found : kinds.entry? i.kind = some entry) :
      Located i [⟨.apiServer question, reply, start⟩]
        ⟨some (.ok (kinds.collectionOf entry i.ns)), finish, t⟩

/-- The collection of a resource is looked up by what its document says. -/
lemma runs_collectionOf (plain : r.IsPlain) (kept : r.KeptAs i) {o : Outcome σ Error Collection}
    (hr : Runs h (collectionOf r) now s log o) : Located i log o := by
  have hasks := listKinds_eq plain kept
  cases sought_of_runs hr with
  | unasked invalid =>
    rcases hasks with ⟨question, hform, -⟩ | ⟨e, -, hinvalid⟩
    · rw [invalid] at hform
      cases hform
    · exact .unasked hinvalid
  | unlisted asks unlisted =>
    rcases hasks with ⟨question, hform, hasks⟩ | ⟨e, hform, -⟩ <;> rw [asks] at hform <;>
      cases hform
    refine .unlisted hasks fun kinds hkinds => ?_
    simpa [collection?_eq kept] using unlisted kinds hkinds
  | found asks lists found =>
    rcases hasks with ⟨question, hform, hasks⟩ | ⟨e, hform, -⟩ <;> rw [asks] at hform <;>
      cases hform
    rw [collection?_eq kept] at found
    obtain ⟨entry, hentry, rfl⟩ := Option.map_eq_some_iff.mp found
    exact .listed hasks lists hentry

/-! ## The request for the object -/

/-- A request for an object is formed at its address, or the reason why it is not is given. -/
lemma named_request (plain : r.IsPlain) (kept : r.KeptAs i) (kinds : KindList) (entry : KindEntry)
    (method : Http.Method) (parameters : List (String × String)) (contentType : Option String)
    (body : Json) :
    (∃ formed, named r.name (request method
        ((kinds.collectionOf entry i.ns).objectPath r.name) parameters contentType (some body)) =
          .ok formed ∧ IsFor i kinds entry method parameters body formed) ∨
    (∃ e, named r.name (request method
        ((kinds.collectionOf entry i.ns).objectPath r.name) parameters contentType (some body)) =
          .error e ∧
      (i.name = "" ∨ Http.target? (objectPath i kinds entry) parameters = none)) := by
  rw [kept.name, objectPath_eq]
  cases hform : named i.name (request method (objectPath i kinds entry) parameters contentType
      (some body)) with
  | error e => exact .inr ⟨e, rfl, named_request_eq_error hform⟩
  | ok formed =>
    obtain ⟨-, hparts, hmethod, -, hbody⟩ := named_request_eq_ok hform
    refine .inl ⟨formed, rfl, hmethod, hbody, hparts, fun hversion hentry => ?_⟩
    have hplain := isPlain_objectPath plain kept hversion hentry
    exact (Http.path_of_target? hparts).trans hplain.pathOf_eq

/-- What is sent once the collection is looked up is for the object. -/
lemma addresses_bind (plain : r.IsPlain) (kept : r.KeptAs i) {method : Http.Method}
    {parameters : List (String × String)} (contentType : Option String) {body : Json}
    {act : Collection → Program Network Error Unit}
    (hact : ∀ c mid t, trace h (act c) mid t =
      match named r.name (request method (c.objectPath r.name) parameters contentType
          (some body)) with
      | .ok formed => [⟨.apiServer formed, (h (.apiServer formed) mid t).reply, mid⟩]
      | .error _ => []) (now : Duration) (s : σ) :
    Addresses i method parameters body (trace h ((collectionOf r).bind act) now s) := by
  have hlocated := runs_collectionOf plain kept (runs_self h (collectionOf r) now s)
  rw [trace_bind]
  generalize trace h (collectionOf r) now s = log at hlocated
  generalize run h (collectionOf r) now s = o at hlocated
  cases hlocated with
  | unasked invalid => exact .unasked invalid
  | unlisted asks unlisted => exact .unlisted asks unlisted
  | @listed question reply start kinds entry finish t asks lists found =>
    dsimp only
    rw [hact]
    rcases named_request plain kept kinds entry method parameters contentType body with
      ⟨formed, hform, isFor⟩ | ⟨e, hform, invalid⟩
    · rw [hform]
      exact .addressed asks lists found isFor
    · rw [hform]
      exact .unformed asks lists found invalid

/-- A question, the answer to it, and a request after it are all that was sent. -/
def Exchanged (log : List (Event Network)) (question : Request)
    (reply : Except Unreachable Response) (request : Request) : Prop :=
  ∃ start answer later,
    log = [⟨.apiServer question, reply, start⟩, ⟨.apiServer request, answer, later⟩]

/-- Under one answer to the question for the kinds, all requests for an object have one address. -/
lemma Addresses.target_eq {method method' : Http.Method}
    {parameters parameters' : List (String × String)} {body body' : Json}
    {log log' : List (Event Network)} {question question' request request' : Request}
    {reply : Except Unreachable Response} (ha : Addresses i method parameters body log)
    (ha' : Addresses i method' parameters' body' log') (hlog : Exchanged log question reply request)
    (hlog' : Exchanged log' question' reply request') : request'.target = request.target := by
  obtain ⟨_, _, _, rfl⟩ := hlog
  obtain ⟨_, _, _, rfl⟩ := hlog'
  cases ha with
  | addressed asks lists found isFor =>
    cases ha' with
    | addressed asks' lists' found' isFor' =>
      obtain rfl := Option.some.inj (lists.symm.trans lists')
      obtain rfl := Option.some.inj (found.symm.trans found')
      rw [Http.path_of_target? isFor.parts, Http.path_of_target? isFor'.parts]

lemma addresses_applyResource (plain : r.IsPlain) (kept : r.KeptAs i) (h : Handler Network σ)
    (now : Duration) (s : σ) :
    Addresses i .patch [("force", "true"), ("fieldManager", fieldManager)] r.body
      (trace h (applyResource r) now s) := by
  refine addresses_bind plain kept (some "application/apply-patch+yaml") (fun c mid t => ?_) now s
  rw [trace_mapError, trace_send]
  rfl

lemma addresses_deleteResource (plain : r.IsPlain) (kept : r.KeptAs i) (h : Handler Network σ)
    (now : Duration) (s : σ) :
    Addresses i .delete [] (.object []) (trace h (deleteResource r) now s) := by
  refine addresses_bind plain kept (some "application/json") (fun c mid t => ?_) now s
  have hquiet : ∀ (e : ClientError) now s, trace h (if isGone e then .done () else
      .fail (.internal "delete_resource" ("failed to delete " ++ r.displayName ++ ": " ++
        e.message)) : Program Network Error Unit) now s = [] := by
    intro e now s
    split <;> rfl
  rw [trace_handle_eq hquiet, trace_send]
  rfl

/-- **Address and body name the same object.**  Let a resource come from a document or a manifest,
with nothing in what it says it is that ends a path.  Whatever the server answers, the resource is
applied with its document as the body, and at the address of what that document says it is: the
kinds of the group and version are asked for, and the address is that of the collection of the first
entry of the kind, in the namespace of the document if objects of the kind live in one, and of the
name.  It is deleted at the same address if the question is answered the same. -/
theorem applied_and_deleted_at_address (built : r.IsBuilt) (plain : r.IsPlain)
    (h : Handler Network σ) (now : Duration) (s : σ) :
    ∃ i, Declares r.body i ∧
      Addresses i .patch [("force", "true"), ("fieldManager", fieldManager)] r.body
        (trace h (applyResource r) now s) ∧
      Addresses i .delete [] (.object []) (trace h (deleteResource r) now s) ∧
      ∀ (τ : Type) (h' : Handler Network τ) later t question question' reply applied deleted,
        Exchanged (trace h (applyResource r) now s) question reply applied →
        Exchanged (trace h' (deleteResource r) later t) question' reply deleted →
        deleted.target = applied.target := by
  obtain ⟨i, declares, kept⟩ := built.declares
  have happlied := addresses_applyResource plain kept h now s
  refine ⟨i, declares, happlied, addresses_deleteResource plain kept h now s, ?_⟩
  intro τ h' later t question question' reply applied deleted hlog hlog'
  exact happlied.target_eq (addresses_deleteResource plain kept h' later t) hlog hlog'

/-- A deployment whose namespace is given but empty. -/
def web : Resource where
  group := "apps"
  version := "v1"
  kind := "Deployment"
  name := "web"
  ns := none
  body := .object [("apiVersion", .string "apps/v1"), ("kind", .string "Deployment"),
    ("metadata", .object [("name", .string "web"), ("namespace", .string "")])]

/-- A server that knows deployments, which have parts of the same kind. -/
def knowingDeployments : Handler Network Unit
  | .apiServer asked, _, _ =>
    let kinds := "\x7b\"groupVersion\":\"apps/v1\",\"resources\":[" ++
      "\x7b\"name\":\"deployments/scale\",\"kind\":\"Deployment\"\x7d," ++
      "\x7b\"name\":\"deployments\",\"kind\":\"Deployment\",\"namespaced\":true\x7d]\x7d"
    ⟨.ok ⟨200, if asked.method = .get then kinds else "\x7b\x7d"⟩, 0, ()⟩
  | .other _, _, _ => ⟨.error ⟨"refused"⟩, 0, ()⟩

/-- The targets of the requests to the API server. -/
def targets (log : List (Event Network)) : List String :=
  log.filterMap fun e => match e.op with
    | .apiServer request => some request.target
    | .other _ => none

/-- A namespace that is empty is the default one. -/
theorem applied_and_deleted_at_address_web :
    web.IsBuilt ∧ web.IsPlain ∧
      targets (trace knowingDeployments (applyResource web) 0 ()) =
        ["/apis/apps/v1", "/apis/apps/v1/namespaces/default/deployments/web"] ∧
      ∃ i, Declares web.body i ∧
        Addresses i .patch [("force", "true"), ("fieldManager", fieldManager)] web.body
          (trace knowingDeployments (applyResource web) 0 ()) := by
  have built : web.IsBuilt := .ofDocument web.body rfl
  have plain : web.IsPlain := ⟨by decide, by decide, fun ns hns => by cases hns⟩
  obtain ⟨i, declares, happlied, -⟩ :=
    applied_and_deleted_at_address built plain knowingDeployments 0 ()
  exact ⟨built, plain, by decide +kernel, i, declares, happlied⟩

end ApiServer

end Provisioner
