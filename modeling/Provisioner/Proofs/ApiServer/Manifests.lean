import Provisioner.Proofs.ApiServer.Addresses
import Provisioner.Proofs.ApiServer.Calls
import Provisioner.Proofs.Program.Retrying
/-!
# What is sent for a manifest

A manifest is applied or deleted resource by resource: for each one the kinds of its group and
version are asked for, and one request follows for the object itself.  `Change` says what that
request is and which answers make the resource done.  A manifest that cannot be decoded sends
nothing; of any other, the first resource that is not done is the last one for which anything is
sent, and the call ends well exactly when there is none such.
-/

namespace Provisioner

open Program
open Http (Request Response Unreachable)

/-- The address of the kinds of the group and version of a resource. -/
def Resource.kindsPath (r : Resource) : String :=
  (if r.group = "" then "/api/" else "/apis/" ++ r.group ++ "/") ++ r.version

namespace ApiServer

variable {σ : Type} {h : Handler Network σ} {now : Duration} {s : σ} {log : List (Event Network)}
  {r : Resource} {place : Collection}

/-! ## One resource -/

/-- What is done with a resource: the request that is made for it where it belongs, and the answers
to that request by which the resource is done. -/
structure Change where
  method : Http.Method
  parameters : List (String × String)
  contentType : String
  body : Resource → Json
  Accepts : Response → Prop
  /-- The parameters are read as they are written. -/
  sound : Http.Form.decode (Http.Form.goOn parameters) = parameters
  /-- Nothing in the parameters ends them. -/
  uncut : '#' ∉ Http.Form.goOn parameters

namespace Change

/-- A resource is applied by force, in the name of this program, with its document as the body. -/
def applying : Change where
  method := .patch
  parameters := [("force", "true"), ("fieldManager", fieldManager)]
  contentType := "application/apply-patch+yaml"
  body r := r.body
  Accepts response := bodyOf checkObject response = .ok ()
  sound := by decide +kernel
  uncut := by decide

/-- A resource is deleted, or absent. -/
def deleting : Change where
  method := .delete
  parameters := []
  contentType := "application/json"
  body _ := .object []
  Accepts := Deletion
  sound := rfl
  uncut := by decide

/-- The request asks for the kinds of the group and version of the resource. -/
structure AsksKinds (r : Resource) (question : Request) : Prop where
  method : question.method = .get
  parts : Http.bare? r.kindsPath = some (question.target, question.query)
  contentType : question.contentType = none
  body : question.body = none

/-- The request makes the change to the resource, which belongs to the collection. -/
structure Makes (c : Change) (r : Resource) (place : Collection) (request : Request) : Prop where
  named : r.name ≠ ""
  method : request.method = c.method
  parts : Http.target? (place.objectPath r.name) c.parameters =
    some (request.target, request.query)
  contentType : request.contentType = some c.contentType
  body : request.body = some (c.body r)
  /-- The parameters are sent, unless a number sign in the address cuts them off. -/
  parameters : '#' ∉ (place.objectPath r.name).toList → c.parameters <:+ request.query
  /-- An address in which nothing ends a path is the target, and the parameters are the query. -/
  plain : Http.IsPlain (place.objectPath r.name) →
    request.target = place.objectPath r.name ∧ request.query = c.parameters

/-- The resource is done, with these requests. -/
inductive Done (c : Change) (r : Resource) : List (Event Network) → Prop
  | accepted {question request : Request} {reply : Except Unreachable Response}
      {response : Response} {start later : Duration} {kinds : KindList} {place : Collection}
      (asks : AsksKinds r question) (lists : kindsOf reply = some kinds)
      (found : kinds.collection? r = some place) (makes : c.Makes r place request)
      (accepts : c.Accepts response) :
      Done c r [⟨.apiServer question, reply, start⟩, ⟨.apiServer request, .ok response, later⟩]

/-- The resource is not done, for one of these reasons: its kinds cannot be asked for, its kind is
not listed, there is no request for it, or the request is not accepted. -/
inductive Undone (c : Change) (r : Resource) : List (Event Network) → Prop
  | unasked (invalid : Http.bare? r.kindsPath = none) : Undone c r []
  | unlisted {question : Request} {reply : Except Unreachable Response} {start : Duration}
      (asks : AsksKinds r question)
      (unlisted : ∀ kinds, kindsOf reply = some kinds → kinds.collection? r = none) :
      Undone c r [⟨.apiServer question, reply, start⟩]
  | unformed {question : Request} {reply : Except Unreachable Response} {start : Duration}
      {kinds : KindList} {place : Collection} (asks : AsksKinds r question)
      (lists : kindsOf reply = some kinds) (found : kinds.collection? r = some place)
      (invalid : r.name = "" ∨ Http.target? (place.objectPath r.name) c.parameters = none) :
      Undone c r [⟨.apiServer question, reply, start⟩]
  | refused {question request : Request} {reply answer : Except Unreachable Response}
      {start later : Duration} {kinds : KindList} {place : Collection}
      (asks : AsksKinds r question) (lists : kindsOf reply = some kinds)
      (found : kinds.collection? r = some place) (makes : c.Makes r place request)
      (refuses : ∀ response, answer = .ok response → ¬ c.Accepts response) :
      Undone c r [⟨.apiServer question, reply, start⟩, ⟨.apiServer request, answer, later⟩]

variable {c : Change}

/-- Two requests are made for a resource that is done. -/
lemma Done.length_eq (hdone : c.Done r log) : log.length = 2 := by
  cases hdone
  rfl

/-- A resource that is not done is so in all that its requests begin. -/
lemma Undone.not_done {more : List (Event Network)} (hundone : c.Undone r (log ++ more)) :
    ¬ c.Done r log := by
  intro hdone
  cases hdone with
  | accepted asks lists found makes accepts =>
    cases hundone with
    | refused asks' lists' found' makes' refuses => exact refuses _ rfl accepts

/-! ### The requests -/

lemma listKinds_eq_bare (r : Resource) :
    listKinds r.group r.version =
      match Http.bare? r.kindsPath with
      | some (target, query) =>
        .ok { method := .get, target, query, contentType := none, body := none }
      | none => .error (.address "invalid uri character") := by
  unfold listKinds getBare
  rw [← Resource.kindsPath]
  cases Http.bare? r.kindsPath <;> rfl

lemma asksKinds_of_listKinds {question : Request}
    (hform : listKinds r.group r.version = .ok question) : AsksKinds r question := by
  rw [listKinds_eq_bare] at hform
  split at hform
  · rename_i target query hparts
    cases hform
    exact ⟨rfl, hparts, rfl, rfl⟩
  · cases hform

lemma bare?_of_listKinds {cause : ClientError}
    (hform : listKinds r.group r.version = .error cause) : Http.bare? r.kindsPath = none := by
  rw [listKinds_eq_bare] at hform
  split at hform
  · cases hform
  · rename_i hparts
    exact hparts

/-- The request that a change is made by, as it is formed. -/
def form (c : Change) (r : Resource) (place : Collection) : Except ClientError Request :=
  named r.name (request c.method (place.objectPath r.name) c.parameters (some c.contentType)
    (some (c.body r)))

lemma makes_of_form {formed : Request} (hform : c.form r place = .ok formed) :
    c.Makes r place formed := by
  obtain ⟨hname, hparts, hmethod, hcontent, hbody⟩ := named_request_eq_ok hform
  exact ⟨hname, hmethod, hparts, hcontent, hbody,
    fun uncut => Http.suffix_of_target? uncut c.uncut c.sound hparts,
    fun plain => plain.eq_of_target? c.uncut c.sound hparts⟩

/-! ### The programs -/

/-- How the request for the object can end, once its collection is known. -/
inductive Ends (c : Change) (r : Resource) (place : Collection) :
    List (Event Network) → Outcome σ Error Unit → Prop
  | unformed {e : Error} {finish : Duration} {t : σ}
      (invalid : r.name = "" ∨ Http.target? (place.objectPath r.name) c.parameters = none) :
      Ends c r place [] ⟨some (.error e), finish, t⟩
  | refused {request : Request} {answer : Except Unreachable Response} {later : Duration}
      {e : Error} {finish : Duration} {t : σ} (makes : c.Makes r place request)
      (refuses : ∀ response, answer = .ok response → ¬ c.Accepts response) :
      Ends c r place [⟨.apiServer request, answer, later⟩] ⟨some (.error e), finish, t⟩
  | accepted {request : Request} {response : Response} {later : Duration} {finish : Duration}
      {t : σ} (makes : c.Makes r place request) (accepts : c.Accepts response) :
      Ends c r place [⟨.apiServer request, .ok response, later⟩] ⟨some (.ok ()), finish, t⟩

/-- Work on resources makes the change to each of them: it ends well exactly when the resource is
done. -/
def MadeBy (c : Change) (h : Handler Network σ) (work : Resource → Program Network Error Unit) :
    Prop :=
  ∀ r now s log o, Runs h (work r) now s log o →
    (o.result = some (.ok ()) ∧ c.Done r log) ∨ ∃ e, o.result = some (.error e) ∧ c.Undone r log

/-- Work that looks for the collection and then makes the request makes the change. -/
lemma madeBy_of_ends {act : Resource → Collection → Program Network Error Unit}
    (hact : ∀ r place now s log o, Runs h (act r place) now s log o → c.Ends r place log o) :
    c.MadeBy h fun r => (collectionOf r).bind (act r) := by
  intro r now s log o hr
  rcases runs_bind hr with ⟨place, mid, t, l₁, l₂, hsought, hend, rfl⟩ |
    ⟨e, finish, t, hsought, rfl⟩ | ⟨finish, t, hsought, rfl⟩
  · cases sought_of_runs hsought with
    | found asks lists found =>
      have hasks := asksKinds_of_listKinds asks
      cases hact r place mid t l₂ o hend with
      | unformed invalid => exact .inr ⟨_, rfl, .unformed hasks lists found invalid⟩
      | refused makes refuses => exact .inr ⟨_, rfl, .refused hasks lists found makes refuses⟩
      | accepted makes accepts => exact .inl ⟨rfl, .accepted hasks lists found makes accepts⟩
  · cases sought_of_runs hsought with
    | unasked invalid => exact .inr ⟨e, rfl, .unasked (bare?_of_listKinds invalid)⟩
    | unlisted asks unlisted => exact .inr ⟨e, rfl, .unlisted (asksKinds_of_listKinds asks) unlisted⟩
  · cases sought_of_runs hsought

/-- Sending the request, some of whose errors are tolerated, ends by the answer that it gets. -/
lemma ends_of_send (c : Change) (read : Response → Except ClientError Unit)
    (tolerates : ClientError → Bool) {error : ClientError → Error} {o : Outcome σ Error Unit}
    (accepts_iff : ∀ response, c.Accepts response ↔
      read response = .ok () ∨ ∃ e, read response = .error e ∧ tolerates e = true)
    (formed : ∀ e, c.form r place = .error e → tolerates e = false)
    (reached : ∀ detail, tolerates (.service detail) = false)
    (hr : Runs h ((send (c.form r place) read).handle fun e =>
      if tolerates e then .done () else .fail (error e)) now s log o) : c.Ends r place log o := by
  cases hform : c.form r place with
  | error e =>
    have hstrict := formed e hform
    rw [hform] at hr
    change Runs h (if tolerates e then _ else _) now s log o at hr
    rw [hstrict] at hr
    obtain ⟨rfl, rfl⟩ := runs_fail_iff.mp hr
    exact .unformed (named_request_eq_error hform)
  | ok request =>
    have hmakes := makes_of_form hform
    rw [hform] at hr
    obtain ⟨rfl, rfl⟩ := runs_tolerating_iff.mp hr
    cases (h (.apiServer request) now s).reply with
    | error unreachable =>
      rw [readReply, tolerating, reached]
      exact .refused hmakes fun response hresponse => by cases hresponse
    | ok response =>
      rw [readReply]
      cases hend : tolerating tolerates error (read response) with
      | ok value =>
        exact .accepted hmakes ((accepts_iff response).mpr (tolerating_eq_ok_iff.mp hend))
      | error e =>
        refine .refused hmakes fun response' hresponse haccepts => ?_
        obtain rfl := Except.ok.inj hresponse
        rw [tolerating_eq_ok_iff.mpr ((accepts_iff response).mp haccepts)] at hend
        cases hend

lemma madeBy_applyResource (h : Handler Network σ) : applying.MadeBy h applyResource := by
  refine madeBy_of_ends fun r place now s log o hr => ?_
  exact ends_of_send applying (bodyOf checkObject) (fun _ => false)
    (fun response => by simp [applying]) (fun _ _ => rfl) (fun _ => rfl) hr

lemma madeBy_deleteResource (h : Handler Network σ) : deleting.MadeBy h deleteResource := by
  refine madeBy_of_ends fun r place now s log o hr => ?_
  exact ends_of_send deleting (bodyOf checkDeleted) isGone
    (fun response => deletion_iff) (fun e he => isGone_of_deleteObject he) (fun _ => rfl) hr

/-! ## A whole manifest -/

variable {manifest : Text.Utf8.Bytes} {work : Resource → Program Network Error Unit}

/-- All resources of the manifest are done, in order, and nothing else is sent. -/
def Whole (c : Change) (manifest : Text.Utf8.Bytes) (log : List (Event Network)) : Prop :=
  ∃ resources logs, Manifest.decode manifest = .ok resources ∧
    List.Forall₂ c.Done resources logs ∧ log = logs.flatten

/-- How a manifest can go: it cannot be decoded, and nothing is sent; all of its resources are done;
or those up to one are, that one is not, and nothing is sent for any other. -/
inductive Course (c : Change) (manifest : Text.Utf8.Bytes) :
    List (Event Network) → Option (Except Error Unit) → Prop
  | undecodable {e : ManifestError} (invalid : Manifest.decode manifest = .error e) :
      Course c manifest [] (some (.error (.manifest e.message)))
  | whole {log : List (Event Network)} (whole : c.Whole manifest log) :
      Course c manifest log (some (.ok ()))
  | stopped {done later : List Resource} {r : Resource} {logs : List (List (Event Network))}
      {last : List (Event Network)} {e : Error}
      (decoded : Manifest.decode manifest = .ok (done ++ r :: later))
      (before : List.Forall₂ c.Done done logs) (undone : c.Undone r last) :
      Course c manifest (logs.flatten ++ last) (some (.error e))

/-- Where a resource is not done, not all of them are. -/
lemma Undone.flatten_ne {done later : List Resource} {logs logs' : List (List (Event Network))}
    {last : List (Event Network)} (before : List.Forall₂ c.Done done logs)
    (undone : c.Undone r last) (all : List.Forall₂ c.Done (done ++ r :: later) logs') :
    logs.flatten ++ last ≠ logs'.flatten := by
  induction before generalizing logs' with
  | nil =>
    intro heq
    cases all with
    | cons hr _ =>
      subst heq
      exact undone.not_done hr
  | cons hfirst hrest ih =>
    intro heq
    cases all with
    | cons hfirst' hrest' =>
      rw [List.flatten_cons, List.flatten_cons, List.append_assoc] at heq
      -- both begin with the two requests for the first resource
      have hlength := hfirst.length_eq.trans hfirst'.length_eq.symm
      exact ih hrest' (List.append_inj heq hlength).2

/-- A manifest ends well exactly when all of its resources are done. -/
lemma Course.ok_iff {result : Option (Except Error Unit)} (course : c.Course manifest log result) :
    result = some (.ok ()) ↔ c.Whole manifest log := by
  cases course with
  | undecodable invalid =>
    refine ⟨fun h => (by cases h), ?_⟩
    rintro ⟨resources, logs, decoded, -⟩
    rw [invalid] at decoded
    cases decoded
  | whole whole => exact ⟨fun _ => whole, fun _ => rfl⟩
  | stopped decoded before undone =>
    refine ⟨fun h => (by cases h), ?_⟩
    rintro ⟨resources, logs, decoded', all, heq⟩
    obtain rfl := Except.ok.inj (decoded.symm.trans decoded')
    exact absurd heq (undone.flatten_ne before all)

/-- The resources of a manifest are dealt with in order, up to the first that is not done. -/
lemma MadeBy.course (made : c.MadeBy h work) {o : Outcome σ Error Unit}
    (hr : Runs h (forManifest work manifest) now s log o) : c.Course manifest log o.result := by
  unfold forManifest at hr
  cases hdecode : Manifest.decode manifest with
  | error e =>
    rw [hdecode] at hr
    obtain ⟨rfl, rfl⟩ := runs_fail_iff.mp hr
    exact .undecodable hdecode
  | ok resources =>
    rw [hdecode] at hr
    dsimp only at hr
    rw [forResources_eq_inTurn] at hr
    have hdone : ∀ r now s log mid t, Runs h (work r) now s log ⟨some (.ok ()), mid, t⟩ →
        c.Done r log := by
      intro r now s log mid t hr
      rcases made r now s log _ hr with ⟨-, hdone⟩ | ⟨e, he, -⟩
      · exact hdone
      · cases he
    obtain ⟨result, finish, t⟩ := o
    by_cases hok : result = some (.ok ())
    · subst hok
      obtain ⟨logs, hall, rfl⟩ := runs_inTurn_ok_iff.mp hr
      exact .whole ⟨resources, logs, hdecode, hall.forall₂ fun r _ => hdone r, rfl⟩
    · obtain ⟨ps, p, qs, logs, mid, u, last, hsplit, hall, hlast, rfl⟩ :=
        (runs_inTurn_stopped_iff hok).mp hr
      obtain ⟨done, more, rfl, rfl, hmore⟩ := List.map_eq_append_iff.mp hsplit
      obtain ⟨r, later, rfl, rfl, rfl⟩ := List.map_eq_cons_iff.mp hmore
      rcases made r mid u last _ hlast with ⟨hend, -⟩ | ⟨e, hend, hundone⟩
      · exact absurd hend hok
      · obtain rfl : result = some (.error e) := hend
        exact .stopped hdecode (hall.forall₂ fun r _ => hdone r) hundone

/-- What is sent for the manifest and the result: they go together as they should. -/
structure Follows (c : Change) (manifest : Text.Utf8.Bytes) (log : List (Event Network))
    (result : Option (Except Error Unit)) : Prop where
  course : c.Course manifest log result
  ok_iff : result = some (.ok ()) ↔ c.Whole manifest log

lemma MadeBy.follows (made : c.MadeBy h work) (manifest : Text.Utf8.Bytes) (now : Duration)
    (s : σ) :
    c.Follows manifest (trace h (forManifest work manifest) now s)
      (run h (forManifest work manifest) now s).result :=
  have course := made.course (runs_self h (forManifest work manifest) now s)
  ⟨course, course.ok_iff⟩

end Change

open Change

/-- **All of a manifest, in order, or up to the first resource that is not done.**  Whatever the
bytes of a manifest are and however the server answers: if they cannot be decoded, that is the error
and nothing is sent.  Otherwise, resource by resource in the order of the documents, the kinds are
asked for and the resource is then applied by force with its document as the body, or deleted; the
first resource for which this does not go well is the last one for which anything is sent, and the
call ends well exactly when there is none.  A deletion whose answer says that the object is absent
goes well.  The parameters of a request are lost only to a number sign in its address.  When a
manifest that is applied again and again is applied in the end, its last attempt is all of it. -/
theorem manifest_course (h : Handler Network σ) (manifest : Text.Utf8.Bytes) (now : Duration)
    (s : σ) :
    applying.Follows manifest (trace h (carryOut (.applyManifest manifest)) now s)
      (run h (carryOut (.applyManifest manifest)) now s).result ∧
    deleting.Follows manifest (trace h (carryOut (.deleteManifest manifest)) now s)
      (run h (carryOut (.deleteManifest manifest)) now s).result ∧
    ∀ retry : Retry,
      let retried := onNetwork (Cluster.applyManifestWithRetry retry manifest)
      let tries := retry.tries h (carryOut (.applyManifest manifest)) now s
      (run h retried now s).result = some (.ok ()) →
        ∃ last < retry.attempts, tries.MakesUp last retried (some (.ok ())) ∧
          applying.Whole manifest (tries.calls last) := by
  refine ⟨(madeBy_applyResource h).follows manifest now s,
    (madeBy_deleteResource h).follows manifest now s, fun retry => ?_⟩
  intro retried tries hok
  obtain ⟨last, hlast, hmakes⟩ :=
    retry.exists_makesUp_run h (carryOut (.applyManifest manifest)) now s
  rw [← onNetwork_applyManifestWithRetry] at hmakes
  have hresult : (tries.outcome last).result = some (.ok ()) := by
    rw [← hok]
    exact (congrArg Outcome.result hmakes.run_eq).symm
  have hfollows := (madeBy_applyResource h).follows manifest (tries.beginning last).time
    (tries.beginning last).state
  refine ⟨last, hlast, ?_, hfollows.ok_iff.mp hresult⟩
  rw [← hresult]
  exact hmakes

/-- A server that knows configmaps and accepts what it is asked, but does not answer the third
request that it gets. -/
def interrupted : Handler Network Nat
  | .apiServer asked, _, answered =>
    let kinds := "\x7b\"groupVersion\":\"v1\",\"resources\":[" ++
      "\x7b\"name\":\"configmaps\",\"kind\":\"ConfigMap\",\"namespaced\":true\x7d]\x7d"
    if answered = 2 then ⟨.error ⟨"connection reset"⟩, 0, 3⟩
    else ⟨.ok ⟨200, if asked.method = .get then kinds else "\x7b\x7d"⟩, 0, answered + 1⟩
  | .other _, _, answered => ⟨.error ⟨"refused"⟩, 0, answered⟩

/-- A configmap. -/
def configMap (name : String) : String :=
  "\x7b\"apiVersion\":\"v1\",\"kind\":\"ConfigMap\",\"metadata\":\x7b\"name\":\"" ++ name ++
    "\"\x7d\x7d"

/-- Two configmaps. -/
def twoConfigMaps : Text.Utf8.Bytes := Text.Utf8.bytes (configMap "a" ++ configMap "b")

/-- Interrupted at the second resource, the manifest is applied from its first one again. -/
theorem manifest_course_interrupted :
    (run interrupted (onNetwork (Cluster.applyManifestWithRetry .standard twoConfigMaps))
      0 0).result = some (.ok ()) ∧
    ∃ last < 3, applying.Whole twoConfigMaps ((Retry.standard.tries interrupted
      (carryOut (.applyManifest twoConfigMaps)) 0 0).calls last) := by
  have hok : (run interrupted
      (onNetwork (Cluster.applyManifestWithRetry .standard twoConfigMaps)) 0 0).result =
        some (.ok ()) := by
    decide +kernel
  obtain ⟨-, -, hretry⟩ := manifest_course interrupted twoConfigMaps 0 0
  obtain ⟨last, hlast, -, hwhole⟩ := hretry .standard hok
  exact ⟨hok, last, hlast, hwhole⟩

/-- A number sign in a name cuts the parameters off: the configmap is applied, but neither by force
nor in anyone's name. -/
theorem parameters_cut_off :
    (run interrupted (carryOut (.applyManifest (Text.Utf8.bytes (configMap "a#b")))) 0 0).result =
        some (.ok ()) ∧
      (sent .patch (trace interrupted
        (carryOut (.applyManifest (Text.Utf8.bytes (configMap "a#b")))) 0 0)).map (·.query) =
        [[]] := by
  decide +kernel

end ApiServer

end Provisioner
