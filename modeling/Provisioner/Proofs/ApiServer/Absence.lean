import Provisioner.Proofs.ApiServer.Resources
/-!
# Absent objects

Three places tell from an error of the server that an object is absent.  A call that looks for an
object goes by the reason in the error; whoever is handed the error goes by its code, and so does a
deletion.  Where the body of the answer is no error, one is made up: its code is the status of the
answer, but its reason is never that of an absent object.  A bare 404 is then an absent object for
two of the three places and a failure for the third.
-/

namespace Provisioner.ApiServer

open Program
open Http (Request Response)

variable {σ : Type} {h : Handler Network σ} {now finish : Duration} {s t : σ}
  {log : List (Event Network)} {response : Response} {question removal : Request}

/-! ## Objects that are looked for -/

/-- The sorts of objects that are looked for where they may be absent. -/
inductive Findable where
  | deployment
  | operatorGroup
  | subscription
  | serviceVersion

namespace Findable

/-- What an object is read as. -/
abbrev Object : Findable → Type
  | deployment => Deployment
  | operatorGroup => OperatorGroup
  | subscription => Subscription
  | serviceVersion => ServiceVersion

/-- The kind of the objects. -/
def kind : Findable → ResourceKind
  | deployment => Deployment.kind
  | operatorGroup => OperatorGroup.kind
  | subscription => Subscription.kind
  | serviceVersion => ServiceVersion.kind

/-- How an object is read. -/
def decode : (sought : Findable) → Json.Decoder sought.Object
  | deployment => Deployment.decode
  | operatorGroup => OperatorGroup.decode
  | subscription => Subscription.decode
  | serviceVersion => ServiceVersion.decode

variable (sought : Findable) (key : ObjectKey)

/-- Look for an object. -/
def find : Program Network Error (Option sought.Object) :=
  match sought with
  | deployment => carryOut (.getDeployment key)
  | operatorGroup => carryOut (.getOperatorGroup key)
  | subscription => carryOut (.getSubscription key)
  | serviceVersion => carryOut (.getServiceVersion key)

/-- The objects among which one is looked for. -/
def collection : Collection := inNamespace sought.kind key.ns

/-- Read an object that has to be there. -/
def read : Program Network Error sought.Object :=
  ofExchange (get sought.decode (sought.collection key) key.name)

lemma find_eq :
    sought.find key = ofExchange (get? sought.decode (sought.collection key) key.name) := by
  cases sought <;> rfl

end Findable

/-! ## The error in an answer -/

/-- The body of an answer is no error of a server. -/
def HoldsNoError (response : Response) : Prop :=
  ∀ document e, Json.read response.body.toList = .ok document → decodeError document ≠ .ok e

/-- What an answer with a status of a fault is taken for: the error that its body is, or one that is
made up from the status. -/
inductive TakenFor (response : Response) : ErrorResponse → Prop
  | held {document : Json} {e : ErrorResponse}
      (read : Json.read response.body.toList = .ok document)
      (holds : decodeError document = .ok e) : TakenFor response e
  | madeUp (none : HoldsNoError response) : TakenFor response (unreadableError response)

lemma errorOf_of_held {document : Json} {e : ErrorResponse}
    (hread : Json.read response.body.toList = .ok document)
    (holds : decodeError document = .ok e) : errorOf response = e := by
  simp only [errorOf, hread, holds]

lemma errorOf_of_holdsNoError (none : HoldsNoError response) :
    errorOf response = unreadableError response := by
  unfold errorOf
  cases hread : Json.read response.body.toList with
  | error cause => rfl
  | ok document =>
    dsimp only
    cases hdecode : decodeError document with
    | error cause => rfl
    | ok e => exact absurd hdecode (none document e hread)

lemma takenFor_errorOf (response : Response) : TakenFor response (errorOf response) := by
  by_cases hnone : HoldsNoError response
  · rw [errorOf_of_holdsNoError hnone]
    exact .madeUp hnone
  · simp only [HoldsNoError, not_forall, not_not] at hnone
    obtain ⟨document, e, hread, holds⟩ := hnone
    rw [errorOf_of_held hread holds]
    exact .held hread holds

/-- A reason that is made up is not that of an absent object. -/
lemma unreadableError_reason (response : Response) :
    (unreadableError response).reason ≠ ErrorResponse.notFoundReason := by
  change "Failed to parse error data" ≠ "NotFound"
  decide

/-! ## What the three places make of it -/

lemma isNotFound_api_iff {e : ErrorResponse} :
    (Error.kube (.api e)).isNotFound = true ↔ e.code = 404 := beq_iff_eq

lemma absentOr_api {α : Type} (e : ErrorResponse) :
    absentOr (.error (.api e) : Except ClientError α) =
      if e.reason = ErrorResponse.notFoundReason then .ok none else .error (.api e) := rfl

/-- A request that is answered ends as its answer is read. -/
lemma result_ofExchange_send {α : Type} {read : Response → Except ClientError α}
    (hanswer : (h (.apiServer question) now s).reply = .ok response) :
    (run h (ofExchange (send (.ok question) read)) now s).result =
      some ((read response).mapError .kube) := by
  have hsend := (runs_send_iff.mp (runs_self h (send (.ok question) read) now s)).2
  rw [hanswer, readReply] at hsend
  rw [ofExchange, run_mapError, hsend]
  cases read response <;> rfl

section Named

variable {sought : Findable} {key : ObjectKey}
  (hquestion : getObject (sought.collection key) key.name = .ok question)
  (hanswer : (h (.apiServer question) now s).reply = .ok response)
  (hfault : Http.isFault response.status = true)

include hquestion hanswer hfault

/-- Reading an object hands the error on. -/
lemma result_read_of_isFault :
    (run h (sought.read key) now s).result = some (.error (.kube (.api (errorOf response)))) := by
  rw [Findable.read, get, hquestion, result_ofExchange_send hanswer, bodyOf_of_isFault hfault]
  rfl

/-- Looking for an object finds none where the reason says so, and hands the error on otherwise. -/
lemma result_find_of_isFault :
    (run h (sought.find key) now s).result =
      some (if (errorOf response).reason = ErrorResponse.notFoundReason then .ok none
        else .error (.kube (.api (errorOf response)))) := by
  rw [Findable.find_eq, get?, hquestion, result_ofExchange_send hanswer, bodyOf_of_isFault hfault,
    absentOr_api]
  by_cases hreason : (errorOf response).reason = ErrorResponse.notFoundReason
  · rw [if_pos hreason, if_pos hreason]
    rfl
  · rw [if_neg hreason, if_neg hreason]
    rfl

lemma result_find_eq_none_iff :
    (run h (sought.find key) now s).result = some (.ok none) ↔
      (errorOf response).reason = ErrorResponse.notFoundReason := by
  rw [result_find_of_isFault hquestion hanswer hfault]
  split
  · rename_i hreason
    exact ⟨fun _ => hreason, fun _ => rfl⟩
  · rename_i hreason
    exact ⟨nofun, fun h => absurd h hreason⟩

end Named

/-- A fault ends a deletion well only by its code. -/
lemma deletion_iff_of_isFault (hfault : Http.isFault response.status = true) :
    Deletion response ↔ (errorOf response).code = 404 := by
  constructor
  · rintro (hread | ⟨-, hcode⟩)
    · rw [bodyOf_of_isFault hfault] at hread
      cases hread
    · exact hcode
  · exact .absent hfault

/-- Once it is known where a resource belongs, its deletion ends well where the answer lets it. -/
lemma result_deleteResource_ok_iff {r : Resource} {c : Collection}
    (hplaced : Runs h (collectionOf r) now s log ⟨some (.ok c), finish, t⟩)
    (hremoval : deleteObject c r.name = .ok removal)
    (hanswer : (h (.apiServer removal) finish t).reply = .ok response) :
    (run h (deleteResource r) now s).result = some (.ok ()) ↔ Deletion response := by
  constructor
  · intro hok
    have hr := runs_of_result hok
    unfold deleteResource at hr
    obtain ⟨c', mid, u, l₁, l₂, hplaced', hdeleted, -⟩ := runs_bind_ok_iff.mp hr
    -- There is only one run, so the resource belongs where it was found to.
    cases hplaced.run_eq.symm.trans hplaced'.run_eq
    obtain ⟨removal', response', hremoval', hanswer', hdeletion, -⟩ :=
      runs_deletion_ok_iff.mp hdeleted
    cases hremoval.symm.trans hremoval'
    cases hanswer.symm.trans hanswer'
    exact hdeletion
  · intro hdeletion
    have hr : Runs h (deleteResource r) now s _ ⟨some (.ok ()), _, _⟩ :=
      hplaced.bind_ok (runs_deletion_ok_iff.mpr
        ⟨removal, response, hremoval, hanswer, hdeletion, rfl, rfl, rfl⟩)
    exact congrArg Outcome.result hr.run_eq

/-- **When the places agree.**  Let the server answer the request for an object with a fault.
Reading the object then ends with the error that the answer is taken for, which is one of an absent
object by its code; looking for the object finds none by the reason instead, and ends with the same
error where that is another.  A deletion that is answered so ends well exactly where the error is one
of an absent object.  So looking for the object agrees with the two exactly where reason and code
agree, and for a fault without an error in its body where the status is not 404. -/
theorem absence_told {sought : Findable} {key : ObjectKey}
    (hquestion : getObject (sought.collection key) key.name = .ok question)
    (hanswer : (h (.apiServer question) now s).reply = .ok response)
    (hfault : Http.isFault response.status = true) :
    let e := errorOf response
    TakenFor response e ∧
      (run h (sought.read key) now s).result = some (.error (.kube (.api e))) ∧
      ((Error.kube (.api e)).isNotFound = true ↔ e.code = 404) ∧
      (run h (sought.find key) now s).result =
        some (if e.reason = "NotFound" then .ok none else .error (.kube (.api e))) ∧
      (∀ (r : Resource) (c : Collection) (start mid : Duration) (u v : σ)
          (asked : List (Event Network)) (removal : Request),
        Runs h (collectionOf r) start u asked ⟨some (.ok c), mid, v⟩ →
        deleteObject c r.name = .ok removal →
        (h (.apiServer removal) mid v).reply = .ok response →
        ((run h (deleteResource r) start u).result = some (.ok ()) ↔
          (Error.kube (.api e)).isNotFound = true)) ∧
      (((run h (sought.find key) now s).result = some (.ok none) ↔
          (Error.kube (.api e)).isNotFound = true) ↔ (e.reason = "NotFound" ↔ e.code = 404)) ∧
      (HoldsNoError response →
        (((run h (sought.find key) now s).result = some (.ok none) ↔
          (Error.kube (.api e)).isNotFound = true) ↔ response.status ≠ 404)) := by
  have hnone := result_find_eq_none_iff hquestion hanswer hfault
  refine ⟨takenFor_errorOf response,
    result_read_of_isFault hquestion hanswer hfault, isNotFound_api_iff,
    result_find_of_isFault hquestion hanswer hfault, ?_, ?_, ?_⟩
  · intro r c start mid u v asked removal hplaced hremoval hreply
    rw [result_deleteResource_ok_iff hplaced hremoval hreply, deletion_iff_of_isFault hfault,
      isNotFound_api_iff]
  · rw [hnone, isNotFound_api_iff]
    rfl
  · intro hholds
    -- The error is made up, so its code is the status, and its reason tells nobody anything.
    have hcode : (errorOf response).code = response.status := by
      rw [errorOf_of_holdsNoError hholds]
      rfl
    have hreason : (errorOf response).reason ≠ ErrorResponse.notFoundReason := by
      rw [errorOf_of_holdsNoError hholds]
      exact unreadableError_reason response
    rw [hnone, isNotFound_api_iff, hcode]
    exact ⟨fun hagree hstatus => hreason (hagree.mpr hstatus),
      fun hstatus => ⟨fun h => absurd h hreason, fun h => absurd h hstatus⟩⟩

/-- A server that knows configmaps, and gives one answer to whatever else it is asked. -/
def repeating (response : Response) : Handler Network Unit
  | .apiServer asked, _, _ =>
    let kinds := "\x7b\"groupVersion\":\"v1\",\"resources\":[" ++
      "\x7b\"name\":\"configmaps\",\"kind\":\"ConfigMap\",\"namespaced\":true\x7d]\x7d"
    if asked.target = "/api/v1" then ⟨.ok ⟨200, kinds⟩, 0, ()⟩ else ⟨.ok response, 0, ()⟩
  | .other _, _, _ => ⟨.error ⟨"refused"⟩, 0, ()⟩

/-- The question for the operator group g. -/
def groupQuestion : Request where
  method := .get
  target := "/apis/operators.coreos.com/v1/namespaces/olm/operatorgroups/g"

/-- Where configmaps are. -/
def configMaps : Collection := .ofKind ⟨"", "v1", "ConfigMap", "configmaps", true, []⟩ (some "olm")

/-- The configmap c. -/
def configMapC : Resource where
  group := ""
  version := "v1"
  kind := "ConfigMap"
  name := "c"
  ns := some "olm"
  body := .null

/-- The request that deletes the configmap c. -/
def removalC : Request where
  method := .delete
  target := "/api/v1/namespaces/olm/configmaps/c"
  contentType := some "application/json"
  body := some (.object [])

/-- An answer in which reason and code say that the object is absent. -/
def missingObject : Response :=
  ⟨404, "\x7b\"status\":\"Failure\",\"reason\":\"NotFound\",\"code\":404\x7d"⟩

/-- The answer for a path under which the server has nothing. -/
def missingPage : Response := ⟨404, "404 page not found\n"⟩

lemma getObject_groupQuestion :
    getObject (Findable.operatorGroup.collection ⟨"olm", "g"⟩) "g" = .ok groupQuestion := by
  decide +kernel

lemma deleteObject_removalC : deleteObject configMaps configMapC.name = .ok removalC := by
  decide +kernel

/-- An object that is missing by reason and code is absent in all three places. -/
theorem absence_told_by_all :
    (run (repeating missingObject) (Findable.operatorGroup.find ⟨"olm", "g"⟩) 0 ()).result =
        some (.ok none) ∧
      (run (repeating missingObject) (deleteResource configMapC) 0 ()).result = some (.ok ()) := by
  have hanswer : (repeating missingObject (.apiServer groupQuestion) 0 ()).reply =
      .ok missingObject := rfl
  obtain ⟨-, -, hnotFound, -, hdelete, hagree, -⟩ :=
    absence_told getObject_groupQuestion hanswer rfl
  have hcode : (errorOf missingObject).code = 404 := by decide +kernel
  have hreason : (errorOf missingObject).reason = "NotFound" := by decide +kernel
  have hplace : (run (repeating missingObject) (collectionOf configMapC) 0 ()).result =
      some (.ok configMaps) := by
    decide +kernel
  have hgone := hnotFound.mpr hcode
  exact ⟨(hagree.mpr ⟨fun _ => hcode, fun _ => hreason⟩).mpr hgone,
    (hdelete _ _ _ _ _ _ _ _ (runs_of_result hplace) deleteObject_removalC rfl).mpr hgone⟩

/-- A bare 404 is an absent object in two of the places, and a failure in the third. -/
theorem absence_told_apart :
    HoldsNoError missingPage ∧ Http.isFault missingPage.status = true ∧
    ∃ e : Error,
      (run (repeating missingPage) (Findable.operatorGroup.read ⟨"olm", "g"⟩) 0 ()).result =
        some (.error e) ∧
      e.isNotFound = true ∧
      (run (repeating missingPage) (deleteResource configMapC) 0 ()).result = some (.ok ()) ∧
      (run (repeating missingPage) (carryOut (.getOperatorGroup ⟨"olm", "g"⟩)) 0 ()).result =
        some (.error e) := by
  have hanswer : (repeating missingPage (.apiServer groupQuestion) 0 ()).reply =
      .ok missingPage := rfl
  have hunread : (Json.read missingPage.body.toList).toOption = none := by decide +kernel
  have hnone : HoldsNoError missingPage := by
    intro document e hread
    rw [hread] at hunread
    cases hunread
  have hmadeUp := errorOf_of_holdsNoError hnone
  have hread := result_read_of_isFault getObject_groupQuestion hanswer rfl
  have hfind := result_find_of_isFault getObject_groupQuestion hanswer rfl
  rw [hmadeUp] at hread
  rw [hmadeUp, if_neg (unreadableError_reason missingPage)] at hfind
  exact ⟨hnone, rfl, _, hread, rfl, by decide +kernel, hfind⟩

end Provisioner.ApiServer
