import Provisioner.ApiServer.Client
import Provisioner.Proofs.Except
import Provisioner.Proofs.Http.Target
import Provisioner.Proofs.Program.Interpret
/-!
# Where resources are applied and deleted

A resource is found on the server by its kind.  Where the server answers the question for its kinds
the same at all times, a resource is applied and deleted in the same place: the path of the request
that applies it is that of the request that deletes it.
-/

namespace Provisioner

open Program
open Http (Request Response Unreachable)

variable {σ : Type} {h : Handler Network σ} {now finish : Duration} {s t : σ}
  {log : List (Event Network)} {kinds : Request → Except Unreachable Response} {r : Resource}

namespace ApiServer

/-! ## Requests that are formed -/

/-- The path of an object. -/
def Collection.objectUrl (c : Collection) (name : String) : String :=
  Http.pathOf (c.objectPath name)

section Forming

variable {method : Http.Method} {name path : String} {parameters : List (String × String)}
  {contentType : Option String} {body : Option Json} {form : Except ClientError Request}
  {formed : Request} {e : ClientError}

/-- What a request is formed of. -/
lemma request_eq_ok (hformed : request method path parameters contentType body = .ok formed) :
    Http.target? path parameters = some (formed.target, formed.query) ∧
      formed.method = method ∧ formed.contentType = contentType ∧ formed.body = body := by
  unfold request at hformed
  split at hformed
  · rename_i target query hparts
    cases hformed
    exact ⟨hparts, rfl, rfl, rfl⟩
  · cases hformed

/-- Why there is no request. -/
lemma request_eq_error (hformed : request method path parameters contentType body = .error e) :
    Http.target? path parameters = none := by
  unfold request at hformed
  split at hformed
  · cases hformed
  · rename_i hparts
    exact hparts

lemma getBare_eq_ok (hformed : getBare path = .ok formed) : formed.method = .get := by
  unfold getBare at hformed
  split at hformed
  · cases hformed
    rfl
  · cases hformed

lemma named_eq_ok (hformed : named name form = .ok formed) : name ≠ "" ∧ form = .ok formed := by
  unfold named at hformed
  split at hformed
  · cases hformed
  · rename_i hname
    exact ⟨hname, hformed⟩

lemma named_eq_error (hformed : named name form = .error e) : name = "" ∨ form = .error e := by
  unfold named at hformed
  split at hformed
  · rename_i hname
    exact .inl hname
  · exact .inr hformed

/-- What a request for something that has a name is formed of. -/
lemma named_request_eq_ok
    (hformed : named name (request method path parameters contentType body) = .ok formed) :
    name ≠ "" ∧ Http.target? path parameters = some (formed.target, formed.query) ∧
      formed.method = method ∧ formed.contentType = contentType ∧ formed.body = body :=
  (named_eq_ok hformed).imp_right request_eq_ok

/-- Why there is no request for something that has a name. -/
lemma named_request_eq_error
    (hformed : named name (request method path parameters contentType body) = .error e) :
    name = "" ∨ Http.target? path parameters = none :=
  (named_eq_error hformed).imp_right request_eq_error

end Forming

lemma applyObject_eq_ok {c : Collection} {name : String} {body : Json} {formed : Request}
    (hformed : applyObject c name body = .ok formed) :
    formed.method = .patch ∧ formed.target = c.objectUrl name ∧ formed.body = some body := by
  obtain ⟨-, hparts, hmethod, -, hbody⟩ := named_request_eq_ok hformed
  exact ⟨hmethod, Http.path_of_target? hparts, hbody⟩

lemma deleteObject_eq_ok {c : Collection} {name : String} {formed : Request}
    (hformed : deleteObject c name = .ok formed) :
    formed.method = .delete ∧ formed.target = c.objectUrl name := by
  obtain ⟨-, hparts, hmethod, -⟩ := named_request_eq_ok hformed
  exact ⟨hmethod, Http.path_of_target? hparts⟩

lemma listKinds_eq_ok {group version : String} {formed : Request}
    (hformed : listKinds group version = .ok formed) : formed.method = .get := by
  unfold listKinds at hformed
  split at hformed
  · rename_i question hquestion
    cases hformed
    exact getBare_eq_ok hquestion
  · cases hformed

/-! ## Requests that are sent -/

/-- The request of an event, if it is one of the method to the API server. -/
def sentBy? (method : Http.Method) (e : Event Network) : Option Request :=
  match e.op with
  | .apiServer request => if request.method = method then some request else none
  | .other _ => none

/-- The requests of a method that are sent to the API server, in order. -/
def sent (method : Http.Method) (log : List (Event Network)) : List Request :=
  log.filterMap (sentBy? method)

@[simp] lemma sent_append (method : Http.Method) (l₁ l₂ : List (Event Network)) :
    sent method (l₁ ++ l₂) = sent method l₁ ++ sent method l₂ := List.filterMap_append

/-- What comes of the answer to a request. -/
def readReply {α : Type} (read : Response → Except ClientError α) :
    Except Unreachable Response → Except ClientError α
  | .error unreachable => .error (.service unreachable.detail)
  | .ok response => read response

lemma send_eq {α : Type} (formed : Request) (read : Response → Except ClientError α) :
    send (.ok formed) read = .ask (I := Network) (.apiServer formed) fun reply =>
      Program.ofExcept (readReply read reply) := by
  refine congrArg (Program.ask (I := Network) _) (funext fun reply => ?_)
  cases reply <;> rfl

/-- A request that is formed is one event, and its answer is read. -/
lemma runs_send_iff {α : Type} {formed : Request} {read : Response → Except ClientError α}
    {o : Outcome σ ClientError α} :
    Runs h (send (.ok formed) read) now s log o ↔
      log = [⟨.apiServer formed, (h (.apiServer formed) now s).reply, now⟩] ∧
        o = ⟨some (readReply read (h (.apiServer formed) now s).reply),
          now + (h (.apiServer formed) now s).took, (h (.apiServer formed) now s).state⟩ := by
  rw [send_eq, runs_ask_iff]
  constructor
  · rintro ⟨rest, rfl, hrest⟩
    obtain ⟨rfl, rfl⟩ := runs_ofExcept_iff.mp hrest
    exact ⟨rfl, rfl⟩
  · rintro ⟨rfl, rfl⟩
    exact ⟨[], rfl, runs_ofExcept_iff.mpr ⟨rfl, rfl⟩⟩

lemma trace_send {α : Type} {form : Except ClientError Request}
    {read : Response → Except ClientError α} :
    trace h (send form read) now s =
      match form with
      | .ok formed => [⟨.apiServer formed, (h (.apiServer formed) now s).reply, now⟩]
      | .error _ => [] := by
  cases form with
  | error e => rfl
  | ok formed => exact (runs_send_iff.mp (runs_self h _ now s)).1

lemma runs_send_ok_iff {α : Type} {form : Except ClientError Request}
    {read : Response → Except ClientError α} {value : α} :
    Runs h (send form read) now s log ⟨some (.ok value), finish, t⟩ ↔
      ∃ formed response, form = .ok formed ∧
        (h (.apiServer formed) now s).reply = .ok response ∧ read response = .ok value ∧
        log = [⟨.apiServer formed, .ok response, now⟩] ∧
        finish = now + (h (.apiServer formed) now s).took ∧
        t = (h (.apiServer formed) now s).state := by
  constructor
  · intro hr
    cases form with
    | error e =>
      obtain ⟨-, ho⟩ := runs_fail_iff.mp hr
      cases ho
    | ok formed =>
      obtain ⟨rfl, ho⟩ := runs_send_iff.mp hr
      obtain ⟨hread, rfl, rfl⟩ := Outcome.mk.inj ho
      cases hreply : (h (.apiServer formed) now s).reply with
      | error unreachable =>
        rw [hreply] at hread
        cases hread
      | ok response =>
        rw [hreply] at hread
        exact ⟨formed, response, rfl, hreply, (Option.some.inj hread).symm, rfl, rfl, rfl⟩
  · rintro ⟨formed, response, rfl, hreply, hread, rfl, rfl, rfl⟩
    rw [runs_send_iff, hreply, readReply, hread]
    exact ⟨rfl, rfl⟩

/-! ### Errors that are tolerated -/

section Tolerating

variable {read : Response → Except ClientError Unit} {tolerates : ClientError → Bool}
  {error : ClientError → Error}

/-- What is left of a result when some of its errors are tolerated. -/
def tolerating (tolerates : ClientError → Bool) (error : ClientError → Error) :
    Except ClientError Unit → Except Error Unit
  | .ok () => .ok ()
  | .error e => if tolerates e then .ok () else .error (error e)

lemma tolerating_eq_ok_iff {result : Except ClientError Unit} :
    tolerating tolerates error result = .ok () ↔
      result = .ok () ∨ ∃ e, result = .error e ∧ tolerates e = true := by
  cases result with
  | ok value => exact iff_of_true rfl (.inl rfl)
  | error e => cases htolerates : tolerates e <;> simp [tolerating, htolerates]

lemma handle_ofExcept (result : Except ClientError Unit) :
    ((Program.ofExcept result : Program Network ClientError Unit).handle fun e =>
      if tolerates e then .done () else .fail (error e)) =
        Program.ofExcept (tolerating tolerates error result) := by
  cases result with
  | ok value => rfl
  | error e =>
    rw [tolerating, Program.ofExcept, Program.handle]
    split <;> rfl

/-- A request that is formed is one event, and its answer is read with some errors tolerated. -/
lemma runs_tolerating_iff {formed : Request} {o : Outcome σ Error Unit} :
    Runs h ((send (.ok formed) read).handle fun e =>
        if tolerates e then .done () else .fail (error e)) now s log o ↔
      log = [⟨.apiServer formed, (h (.apiServer formed) now s).reply, now⟩] ∧
        o = ⟨some (tolerating tolerates error (readReply read (h (.apiServer formed) now s).reply)),
          now + (h (.apiServer formed) now s).took, (h (.apiServer formed) now s).state⟩ := by
  rw [send_eq, Program.handle, runs_ask_iff]
  simp only [handle_ofExcept, runs_ofExcept_iff]
  constructor
  · rintro ⟨rest, rfl, rfl, rfl⟩
    exact ⟨rfl, rfl⟩
  · rintro ⟨rfl, rfl⟩
    exact ⟨[], rfl, rfl, rfl⟩

end Tolerating

/-! ## The place of a resource -/

/-- Whenever it is asked what kinds it knows, the server gives the same answer. -/
def FixedKinds (kinds : Request → Except Unreachable Response) (h : Handler Network σ) : Prop :=
  ∀ group version question, listKinds group version = .ok question →
    ∀ now s, (h (.apiServer question) now s).reply = kinds question

/-- The question for the kinds of a resource, and the collection that the answer says it belongs
to. -/
def place? (kinds : Request → Except Unreachable Response) (r : Resource) :
    Option (Request × Collection) := do
  let question ← (listKinds r.group r.version).toOption
  let response ← (kinds question).toOption
  let known ← (bodyOf KindList.decode response).toOption
  let c ← known.collection? r
  return (question, c)

lemma place?_eq_some_iff {question : Request} {c : Collection} :
    place? kinds r = some (question, c) ↔
      ∃ response known, listKinds r.group r.version = .ok question ∧
        kinds question = .ok response ∧ bodyOf KindList.decode response = .ok known ∧
        known.collection? r = some c := by
  simp only [place?, Option.bind_eq_bind, Option.bind_eq_some_iff, toOption_eq_some_iff,
    Option.pure_def, Option.some.injEq, Prod.mk.injEq]
  constructor
  · rintro ⟨asked, hasks, response, hanswer, known, hread, found, hfound, rfl, rfl⟩
    exact ⟨response, known, hasks, hanswer, hread, hfound⟩
  · rintro ⟨response, known, hasks, hanswer, hread, hfound⟩
    exact ⟨question, hasks, response, hanswer, known, hread, c, hfound, rfl, rfl⟩

lemma runs_collectionOf_ok_iff (fixed : FixedKinds kinds h) {c : Collection} :
    Runs h (collectionOf r) now s log ⟨some (.ok c), finish, t⟩ ↔
      ∃ question, place? kinds r = some (question, c) ∧
        log = [⟨.apiServer question, kinds question, now⟩] ∧
        finish = now + (h (.apiServer question) now s).took ∧
        t = (h (.apiServer question) now s).state := by
  unfold collectionOf lookUp
  rw [runs_mapError_ok_iff, bind_eq, runs_bind_ok_iff]
  constructor
  · rintro ⟨known, mid, u, l₁, l₂, hsend, hfind, rfl⟩
    obtain ⟨question, response, hasks, hreply, hread, rfl, rfl, rfl⟩ := runs_send_ok_iff.mp hsend
    -- The answer of this moment is the one that is given at all times.
    have hkinds : kinds question = .ok response := (fixed _ _ _ hasks now s).symm.trans hreply
    cases hfound : known.collection? r with
    | none =>
      rw [hfound] at hfind
      obtain ⟨-, ho⟩ := runs_fail_iff.mp hfind
      cases ho
    | some found =>
      rw [hfound] at hfind
      obtain ⟨rfl, ho⟩ := runs_done_iff.mp hfind
      cases ho
      have hplace := place?_eq_some_iff.mpr ⟨response, known, hasks, hkinds, hread, hfound⟩
      exact ⟨question, hplace, by rw [hkinds]; rfl, rfl, rfl⟩
  · rintro ⟨question, hplace, rfl, rfl, rfl⟩
    obtain ⟨response, known, hasks, hkinds, hread, hfound⟩ := place?_eq_some_iff.mp hplace
    have hreply : (h (.apiServer question) now s).reply = .ok response :=
      (fixed _ _ _ hasks now s).trans hkinds
    refine ⟨known, _, _, _, [], runs_send_ok_iff.mpr
      ⟨question, response, hasks, hreply, hread, rfl, rfl, rfl⟩, ?_, by rw [hkinds]; rfl⟩
    rw [hfound]
    exact runs_done_iff.mpr ⟨rfl, rfl⟩

/-! ## Applying a resource -/

/-- The path under which a resource is found on the server. -/
def url (kinds : Request → Except Unreachable Response) (r : Resource) : String :=
  ((place? kinds r).map fun place => place.2.objectUrl r.name).getD ""

lemma url_eq {question : Request} {c : Collection} (hplace : place? kinds r = some (question, c)) :
    url kinds r = c.objectUrl r.name := by
  rw [url, hplace]
  rfl

lemma runs_applyResource_ok (fixed : FixedKinds kinds h)
    (hr : Runs h (applyResource r) now s log ⟨some (.ok ()), finish, t⟩) :
    ∃ formed, sent .patch log = [formed] ∧ formed.target = url kinds r ∧
      formed.body = some r.body := by
  unfold applyResource at hr
  obtain ⟨c, mid, u, l₁, l₂, hplaced, happlied, rfl⟩ := runs_bind_ok_iff.mp hr
  obtain ⟨question, hplace, rfl, -, -⟩ := (runs_collectionOf_ok_iff fixed).mp hplaced
  obtain ⟨formed, response, hformed, -, -, rfl, -, -⟩ :=
    runs_send_ok_iff.mp (runs_mapError_ok_iff.mp happlied)
  obtain ⟨hmethod, htarget, hbody⟩ := applyObject_eq_ok hformed
  obtain ⟨-, -, hasks, -⟩ := place?_eq_some_iff.mp hplace
  have hget := listKinds_eq_ok hasks
  refine ⟨formed, ?_, htarget.trans (url_eq hplace).symm, hbody⟩
  simp [sent, sentBy?, hget, hmethod]

/-! ## Deleting a resource -/

/-- The requests by which a resource is deleted. -/
def removal (kinds : Request → Except Unreachable Response) (r : Resource) : List NetworkOp :=
  match place? kinds r with
  | none => []
  | some (question, c) =>
    match deleteObject c r.name with
    | .error _ => []
    | .ok formed => [.apiServer question, .apiServer formed]

/-- The requests by which a resource is deleted can be formed. -/
def Removable (kinds : Request → Except Unreachable Response) (r : Resource) : Prop :=
  ∃ question c formed, place? kinds r = some (question, c) ∧ deleteObject c r.name = .ok formed

/-- The answer to a deletion: it is accepted, or the object is absent. -/
inductive Deletion (response : Response) : Prop
  | accepted (read : bodyOf checkDeleted response = .ok ())
  | absent (fault : Http.isFault response.status = true) (code : (errorOf response).code = 404)

/-- What an answer holds is what its text is read as. -/
lemma bodyOf_eq_ok {α : Type} {d : Json.Decoder α} {response : Response} {document : Json}
    {value : α} (hfault : Http.isFault response.status = false)
    (hread : Json.read response.body.toList = .ok document) (hvalue : d document = .ok value) :
    bodyOf d response = .ok value := by
  have htext : textOf response = .ok response.body := by
    unfold textOf
    rw [if_neg (by simp [hfault])]
  refine bind_eq_ok_iff.mpr ⟨response.body, htext, bind_eq_ok_iff.mpr ⟨document, ?_, ?_⟩⟩
  · exact mapError_eq_ok_iff.mpr hread
  · exact mapError_eq_ok_iff.mpr hvalue

lemma bodyOf_of_isFault {α : Type} {d : Json.Decoder α} {response : Response}
    (hfault : Http.isFault response.status = true) :
    bodyOf d response = .error (.api (errorOf response)) := by
  unfold bodyOf textOf
  rw [if_pos hfault]
  rfl

/-- An error of the server is only read from an answer with a status of a fault. -/
lemma bodyOf_eq_api {α : Type} {d : Json.Decoder α} {response : Response} {e : ErrorResponse}
    (he : bodyOf d response = .error (.api e)) :
    Http.isFault response.status = true ∧ e = errorOf response := by
  by_cases hfault : Http.isFault response.status = true
  · rw [bodyOf_of_isFault hfault] at he
    cases he
    exact ⟨hfault, rfl⟩
  · unfold bodyOf textOf at he
    rw [if_neg hfault] at he
    change (jsonOf response.body).bind (valueOf d) = _ at he
    unfold jsonOf valueOf at he
    cases hjson : Json.read response.body.toList with
    | error cause =>
      rw [hjson] at he
      cases he
    | ok value =>
      rw [hjson] at he
      change (d value).mapError _ = _ at he
      cases hvalue : d value with
      | error cause =>
        rw [hvalue] at he
        cases he
      | ok decoded =>
        rw [hvalue] at he
        cases he

lemma isGone_iff {e : ClientError} : isGone e = true ↔ ∃ r, e = .api r ∧ r.code = 404 := by
  cases e <;> simp [isGone]

/-- A deletion ends well exactly when it is answered by one of these. -/
lemma deletion_iff {response : Response} :
    Deletion response ↔ bodyOf checkDeleted response = .ok () ∨
      ∃ e, bodyOf checkDeleted response = .error e ∧ isGone e = true := by
  constructor
  · rintro (hread | ⟨hfault, hcode⟩)
    · exact .inl hread
    · exact .inr ⟨_, bodyOf_of_isFault hfault, isGone_iff.mpr ⟨_, rfl, hcode⟩⟩
  · rintro (hread | ⟨e, he, hgone⟩)
    · exact .accepted hread
    · obtain ⟨r, rfl, hcode⟩ := isGone_iff.mp hgone
      obtain ⟨hfault, rfl⟩ := bodyOf_eq_api he
      exact .absent hfault hcode

/-- A request for a deletion that cannot be formed is no answer of the server. -/
lemma isGone_of_deleteObject {c : Collection} {name : String} {e : ClientError}
    (he : deleteObject c name = .error e) : isGone e = false := by
  unfold deleteObject named request at he
  split at he
  · cases he
    rfl
  · split at he
    · cases he
    · cases he
      rfl

/-- The end of a deletion, by the answer to its request. -/
lemma runs_deletion_ok_iff {c : Collection} {name : String} {error : ClientError → Error} :
    Runs h ((send (deleteObject c name) (bodyOf checkDeleted)).handle fun e =>
        if isGone e then .done () else .fail (error e)) now s log ⟨some (.ok ()), finish, t⟩ ↔
      ∃ formed response, deleteObject c name = .ok formed ∧
        (h (.apiServer formed) now s).reply = .ok response ∧ Deletion response ∧
        log = [⟨.apiServer formed, .ok response, now⟩] ∧
        finish = now + (h (.apiServer formed) now s).took ∧
        t = (h (.apiServer formed) now s).state := by
  constructor
  · intro hr
    cases hform : deleteObject c name with
    | error e =>
      -- Nothing is sent, and the failure is not taken for the absence of the object.
      have hgone := isGone_of_deleteObject hform
      rw [hform] at hr
      change Runs h (if isGone e then _ else _) now s log _ at hr
      rw [hgone] at hr
      obtain ⟨-, ho⟩ := runs_fail_iff.mp hr
      cases ho
    | ok formed =>
      rw [hform] at hr
      obtain ⟨rfl, ho⟩ := runs_tolerating_iff.mp hr
      obtain ⟨hread, rfl, rfl⟩ := Outcome.mk.inj ho
      have hok := tolerating_eq_ok_iff.mp (Option.some.inj hread).symm
      cases hreply : (h (.apiServer formed) now s).reply with
      | error unreachable =>
        rw [hreply] at hok
        simp [readReply, isGone] at hok
      | ok response =>
        rw [hreply] at hok
        exact ⟨formed, response, rfl, hreply, deletion_iff.mpr hok, rfl, rfl, rfl⟩
  · rintro ⟨formed, response, hform, hreply, hdeletion, rfl, rfl, rfl⟩
    rw [hform, runs_tolerating_iff, hreply, readReply,
      tolerating_eq_ok_iff.mpr (deletion_iff.mp hdeletion)]
    exact ⟨rfl, rfl⟩

/-- A resource that is deleted can be, by its two requests. -/
lemma runs_deleteResource_ok (fixed : FixedKinds kinds h)
    (hr : Runs h (deleteResource r) now s log ⟨some (.ok ()), finish, t⟩) :
    Removable kinds r ∧ log.map (·.op) = removal kinds r ∧
      ∃ formed, sent .delete log = [formed] ∧ formed.target = url kinds r := by
  unfold deleteResource at hr
  obtain ⟨c, mid, u, l₁, l₂, hplaced, hdeleted, rfl⟩ := runs_bind_ok_iff.mp hr
  obtain ⟨question, hplace, rfl, -, -⟩ := (runs_collectionOf_ok_iff fixed).mp hplaced
  obtain ⟨formed, response, hformed, -, -, rfl, -, -⟩ := runs_deletion_ok_iff.mp hdeleted
  obtain ⟨hmethod, htarget⟩ := deleteObject_eq_ok hformed
  obtain ⟨-, -, hasks, -⟩ := place?_eq_some_iff.mp hplace
  have hget := listKinds_eq_ok hasks
  refine ⟨⟨question, c, formed, hplace, hformed⟩, ?_, formed, ?_,
    htarget.trans (url_eq hplace).symm⟩
  · simp [removal, hplace, hformed]
  · simp [sent, sentBy?, hget, hmethod]

/-- The server answers every deletion: it accepts it, or the object is absent. -/
def AnswersDeletions (h : Handler Network σ) : Prop :=
  ∀ (request : Request) now s, request.method = .delete →
    ∃ response, (h (.apiServer request) now s).reply = .ok response ∧ Deletion response

/-- A resource that can be deleted is, by a server that answers every deletion. -/
lemma alwaysEnds_deleteResource (fixed : FixedKinds kinds h) (answers : AnswersDeletions h)
    (hr : Removable kinds r) : AlwaysEnds h (deleteResource r) := by
  intro now s
  obtain ⟨question, c, formed, hplace, hformed⟩ := hr
  have hplaced : Runs h (collectionOf r) now s _ ⟨some (.ok c), _, _⟩ :=
    (runs_collectionOf_ok_iff fixed).mpr ⟨question, hplace, rfl, rfl, rfl⟩
  obtain ⟨response, hreply, hdeletion⟩ := answers formed
    (now + (h (.apiServer question) now s).took) (h (.apiServer question) now s).state
    (deleteObject_eq_ok hformed).1
  exact ⟨_, _, _, hplaced.bind_ok (runs_deletion_ok_iff.mpr
    ⟨formed, response, hformed, hreply, hdeletion, rfl, rfl, rfl⟩)⟩

end ApiServer

end Provisioner
