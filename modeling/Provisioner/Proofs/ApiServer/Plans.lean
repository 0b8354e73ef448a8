import Provisioner.Install.Waits
import Provisioner.Json.Printer
import Provisioner.Proofs.ApiServer.Calls
import Provisioner.Proofs.ApiServer.Resources
import Provisioner.Proofs.Json.Fields
import Provisioner.Proofs.Json.MergePatch
import Provisioner.Proofs.Program.Repetition
/-!
# What an approval writes

An install plan is read as a record of the parts that are known, and its approval is written back as
a merge patch.  Whatever else the document on the server holds, the patch leaves it alone: all that
becomes of the document is that it is approved.
-/

namespace Provisioner

open Program
open Json (mergePatch Untouched)
open Http (Request Response)

/-! ## Documents of install plans -/

namespace InstallPlan

/-- The document is an object with an object for what the plan would do, and read as a plan. -/
structure IsDocument (document : Json) : Prop where
  object : ∃ members, document = .object members
  spec : ∃ members, document.get? "spec" = some (.object members)
  read : ∃ plan, InstallPlan.decode document = .ok plan

/-- The document says that the plan is approved. -/
def SaysApproved (document : Json) : Prop :=
  document.at? ["spec", "approved"] = some (.bool true)

/-- The path neither leads to the approval nor into it. -/
def Elsewhere (path : List String) : Prop :=
  ¬ path <+: ["spec", "approved"] ∧ ¬ ["spec", "approved"] <+: path

/-- The document says that the plan is approved, and what the other one says everywhere else. -/
structure ApprovedCopy (document copy : Json) : Prop where
  object : ∃ members, copy = .object members
  spec : ∃ members, copy.get? "spec" = some (.object members)
  approved : SaysApproved copy
  rest : ∀ path, Elsewhere path → copy.at? path = document.at? path

variable {members : Json.Members} {plan : InstallPlan}

/-! ## What a plan is read from -/

/-- The parts that a plan is read from. -/
lemma exists_of_decode (hread : InstallPlan.decode (.object members) = .ok plan) :
    (∃ metadata, members.find? "metadata" = some metadata ∧
      ObjectMeta.decode metadata = .ok plan.metadata) ∧
    ∃ spec, members.find? "spec" = some spec ∧ InstallPlanSpec.decode spec = .ok plan.spec := by
  obtain ⟨metadata, m, spec, a, b, hmetadata, hm, hspec, ha, rfl⟩ :=
    Json.exists_of_decodeObject hread
  exact ⟨⟨metadata, hmetadata, hm⟩, ⟨spec, hspec, ha⟩⟩

/-- Metadata that are read are an object, and the name is what it says. -/
lemma name_of_decode {value : Json} {metadata : ObjectMeta} {name : String}
    (hread : ObjectMeta.decode value = .ok metadata) :
    metadata.name = some name ↔ value.get? "name" = some (.string name) := by
  obtain ⟨fields, hfields, hthen⟩ := bind_eq_ok_iff.mp hread
  have hmembers : value = .object fields.members := by
    cases value with
    | object members =>
      cases hfields
      rfl
    | _ => cases hfields
  simp only [Bind.bind, bind_eq_ok_iff] at hthen
  -- nine fields are read before the name, and five after it
  obtain ⟨_, -, _, -, _, -, _, -, _, -, _, -, _, -, _, -, _, -, given, hgiven, hthen⟩ := hthen
  obtain ⟨_, -, _, -, _, -, _, -, _, -, hend⟩ := hthen
  cases hend
  rw [hmembers]
  exact Json.optional_string_eq_some_iff hgiven

/-- What a plan would do is approved when the object says so. -/
lemma approved_of_decode {spec : InstallPlanSpec}
    (hread : InstallPlanSpec.decode (.object members) = .ok spec) :
    spec.approved = true ↔ members.find? "approved" = some (.bool true) := by
  obtain ⟨fields, hfields, hthen⟩ := bind_eq_ok_iff.mp hread
  obtain ⟨_, -, hthen⟩ := bind_eq_ok_iff.mp hthen
  obtain ⟨approved, happroved, hthen⟩ := bind_eq_ok_iff.mp hthen
  obtain ⟨_, -, hend⟩ := bind_eq_ok_iff.mp hthen
  cases hend
  rw [← Json.find?_of_closed (by simp) hfields]
  exact Json.defaulted_bool_eq_true_iff happroved

namespace IsDocument

variable {document : Json}

/-- A plan is named as its document says. -/
lemma name_eq_some_iff (isDocument : IsDocument document)
    (hread : InstallPlan.decode document = .ok plan) (name : String) :
    plan.metadata.name = some name ↔
      document.at? ["metadata", "name"] = some (.string name) := by
  obtain ⟨members, rfl⟩ := isDocument.object
  obtain ⟨⟨metadata, hfind, hmetadata⟩, -⟩ := exists_of_decode hread
  have hget : (Json.object members).get? "metadata" = some metadata := hfind
  rw [name_of_decode hmetadata, Json.at?_cons, hget, Option.bind_some, Json.at?_cons]
  cases metadata.get? "name" <;> simp

/-- A plan is approved when its document says so. -/
lemma approved_eq_true_iff (isDocument : IsDocument document)
    (hread : InstallPlan.decode document = .ok plan) :
    plan.spec.approved = true ↔ SaysApproved document := by
  obtain ⟨members, rfl⟩ := isDocument.object
  obtain ⟨inside, hinside⟩ := isDocument.spec
  obtain ⟨-, spec, hfind, hspec⟩ := exists_of_decode hread
  obtain rfl := Option.some.inj (hfind.symm.trans hinside)
  have hget : (Json.object inside).get? "approved" = Json.Members.find? "approved" inside := rfl
  rw [approved_of_decode hspec, SaysApproved, Json.at?_cons, hinside, Option.bind_some,
    Json.at?_cons, hget]
  cases Json.Members.find? "approved" inside <;> simp

end IsDocument

/-! ## What is written back -/

/-- What the approval of a plan is written back as, whatever the plan is. -/
lemma approvalDocument_approve (plan : InstallPlan) :
    ApiServer.approvalDocument plan.approve =
      .object [("spec", .object [("approved", .bool true)])] := rfl

lemma untouched_of_elsewhere {path : List String} (elsewhere : Elsewhere path) :
    Untouched (.object [("spec", .object [("approved", .bool true)])]) path := by
  cases path with
  | nil => exact absurd List.nil_prefix elsewhere.1
  | cons name path =>
    intro m hm hname
    obtain rfl := List.mem_singleton.mp hm
    subst hname
    cases path with
    | nil => exact absurd ⟨["approved"], rfl⟩ elsewhere.1
    | cons name path =>
      intro m hm hname
      obtain rfl := List.mem_singleton.mp hm
      subst hname
      exact absurd ⟨path, rfl⟩ elsewhere.2

/-- Merged into a document of a plan, the approval makes an approved copy of it. -/
lemma IsDocument.approvedCopy {document : Json} (isDocument : IsDocument document)
    (plan : InstallPlan) :
    ApprovedCopy document (mergePatch document (ApiServer.approvalDocument plan.approve)) := by
  rw [approvalDocument_approve]
  obtain ⟨members, rfl⟩ := isDocument.object
  obtain ⟨inside, hinside⟩ := isDocument.spec
  have hspec := Json.get?_mergePatch_member (.object members) "spec"
    (show Json.object [("approved", .bool true)] ≠ .null by simp)
  rw [hinside, Option.getD_some] at hspec
  have happroved := Json.get?_mergePatch_member (.object inside) "approved"
    (show Json.bool true ≠ .null by simp)
  refine ⟨⟨_, rfl⟩, ⟨_, hspec⟩, ?_, fun path elsewhere =>
    Json.at?_mergePatch_of_untouched (untouched_of_elsewhere elsewhere) _⟩
  rw [SaysApproved, Json.at?_cons, hspec, Option.bind_some, Json.at?_cons, happroved]
  rfl

/-- The address of a plan. -/
def address (ns name : String) : String :=
  "/apis/operators.coreos.com/v1alpha1/namespaces/" ++ ns ++ "/installplans/" ++ name

lemma objectPath_eq (ns name : String) :
    (ApiServer.inNamespace InstallPlan.kind ns).objectPath name = address ns name := by
  have hgroup : (ApiServer.inNamespace InstallPlan.kind ns).group ≠ "" :=
    show InstallPlan.kind.group ≠ "" by decide
  have hpath : (ApiServer.inNamespace InstallPlan.kind ns).path =
      "/" ++ "apis" ++ "/" ++ InstallPlan.kind.apiVersion ++ "/" ++
        ("namespaces/" ++ ns ++ "/") ++ InstallPlan.kind.plural := by
    rw [ApiServer.Collection.path, if_neg hgroup]
    rfl
  have hbefore : "/" ++ "apis" ++ "/" ++ InstallPlan.kind.apiVersion ++ "/" ++ "namespaces/" =
      "/apis/operators.coreos.com/v1alpha1/namespaces/" := by decide +kernel
  have hbetween : "/" ++ InstallPlan.kind.plural ++ "/" = "/installplans/" := by decide +kernel
  rw [ApiServer.Collection.objectPath, hpath]
  refine Eq.trans ?_ (congrArg₂ (fun before between => before ++ ns ++ between ++ name)
    hbefore hbetween)
  simp only [String.append_assoc]

lemma isPlain_address {ns name : String} (hns : Http.IsPlain ns) (hname : Http.IsPlain name) :
    Http.IsPlain (address ns name) := by
  have hbefore : Http.IsPlain "/apis/operators.coreos.com/v1alpha1/namespaces/" := by
    decide +kernel
  have hbetween : Http.IsPlain "/installplans/" := by decide
  have hinside := Http.isPlain_append.mpr ⟨Http.isPlain_append.mpr ⟨hbefore, hns⟩, hbetween⟩
  exact Http.isPlain_append.mpr ⟨hinside, hname⟩

/-- The request writes to the plan of a name that it is approved, and nothing else. -/
structure Approves (ns name : String) (document : Json) (request : Request) : Prop where
  named : name ≠ ""
  method : request.method = .patch
  parts : Http.target? (address ns name) [] = some (request.target, request.query)
  contentType : request.contentType = some "application/merge-patch+json"
  body : ∃ patch, request.body = some patch ∧ ApprovedCopy document (mergePatch document patch)
  /-- The request goes to the plan itself, where nothing in a name ends a path. -/
  plain : Http.IsPlain ns → Http.IsPlain name →
    request.target = address ns name ∧ request.query = []

/-- What is written when a plan is to be approved that the server has this document of. -/
inductive Writes (ns : String) (skips : Bool) (document : Json) : List Request → Prop
  | left (skipped : skips = true) (approved : SaysApproved document) : Writes ns skips document []
  | unaddressed (needed : ¬ (skips = true ∧ SaysApproved document))
      (invalid : ∀ name, document.at? ["metadata", "name"] = some (.string name) →
        name = "" ∨ Http.target? (address ns name) [] = none) :
      Writes ns skips document []
  | written {name : String} {request : Request}
      (needed : ¬ (skips = true ∧ SaysApproved document))
      (named : document.at? ["metadata", "name"] = some (.string name))
      (approves : Approves ns name document request) : Writes ns skips document [request]

end InstallPlan

namespace ApiServer

open InstallPlan (IsDocument SaysApproved Approves Writes)

variable {σ : Type} {h : Handler Network σ} {now : Duration} {s : σ} {key : ObjectKey}
  {skips : Bool} {document : Json} {plan : InstallPlan} {question : Request}

/-! ## The approval of a plan -/

/-- The question for a plan is answered with the document. -/
structure Holds (h : Handler Network σ) (now : Duration) (s : σ) (key : ObjectKey)
    (question : Request) (document : Json) : Prop where
  asked : getObject (inNamespace InstallPlan.kind key.ns) key.name = .ok question
  answered : ∃ response, (h (.apiServer question) now s).reply = .ok response ∧
    Http.isFault response.status = false ∧ Json.read response.body.toList = .ok document

/-- A plan that is written back is approved, in the document that the server has of it. -/
lemma approves_of_mergeObject {ns name : String} {request : Request}
    (isDocument : IsDocument document) (plan : InstallPlan)
    (hform : mergeObject (inNamespace InstallPlan.kind ns) name
      (approvalDocument plan.approve) = .ok request) : Approves ns name document request := by
  obtain ⟨hname, hparts, hmethod, hcontent, hbody⟩ := named_request_eq_ok hform
  rw [InstallPlan.objectPath_eq] at hparts
  exact ⟨hname, hmethod, hparts, hcontent, ⟨_, hbody, isDocument.approvedCopy plan⟩,
    fun hns hname => (InstallPlan.isPlain_address hns hname).eq_of_target? (by decide) rfl hparts⟩

/-- What is sent to write a plan back is written to the plan that its document names. -/
lemma writes_updateInstallPlan {ns : String} (isDocument : IsDocument document)
    (hread : InstallPlan.decode document = .ok plan)
    (needed : ¬ (skips = true ∧ SaysApproved document)) (h : Handler Network σ) (now : Duration)
    (s : σ) :
    ∃ written, (trace h (carryOut (.updateInstallPlan ns plan.approve)) now s).map (·.op) =
        written.map .apiServer ∧ Writes ns skips document written := by
  have hnamed := isDocument.name_eq_some_iff hread
  rw [carryOut, updateInstallPlan, show plan.approve.metadata.name = plan.metadata.name from rfl]
  cases hname : plan.metadata.name with
  | none =>
    refine ⟨[], rfl, .unaddressed needed fun name hname' => ?_⟩
    rw [(hnamed name).mpr hname'] at hname
    cases hname
  | some name =>
    have hnames := (hnamed name).mp hname
    dsimp only
    rw [ofExchange, trace_mapError, trace_send]
    cases hform : mergeObject (inNamespace InstallPlan.kind ns) name
        (approvalDocument plan.approve) with
    | ok request =>
      exact ⟨[request], rfl, .written needed hnames (approves_of_mergeObject isDocument plan hform)⟩
    | error e =>
      refine ⟨[], rfl, .unaddressed needed fun other hother => ?_⟩
      obtain rfl := Json.string.inj (Option.some.inj (hnames.symm.trans hother))
      have hinvalid := named_request_eq_error hform
      rwa [InstallPlan.objectPath_eq] at hinvalid

/-- Over a network, an approval asks for the plan, and writes it back unless it can be left. -/
lemma onNetwork_approveInstallPlan (key : ObjectKey) (skips : Bool) :
    ∃ explain, onNetwork (Install.approveInstallPlan key skips) =
      ((carryOut (.getInstallPlan key)).mapError explain).bind fun plan =>
        if skips && plan.spec.approved then .done false
        else (carryOut (.updateInstallPlan key.ns plan.approve)).bind fun _ => .done true := by
  refine ⟨fun e => .internal "approve_install_plan"
    ("cannot get install plan " ++ key.text ++ ": " ++ e.message), (onNetwork_bind _ _).trans ?_⟩
  rw [onNetwork_mapError, onNetwork_perform]
  refine congrArg (Program.bind _) (funext fun plan => ?_)
  split
  · rfl
  · exact (onNetwork_bind _ _).trans (by rw [onNetwork_perform]; rfl)

/-- **An approval changes nothing else.**  Let the server answer the question for a plan with a
document of one, whatever else the document holds.  All that is sent after the question, if anything
is, is one merge patch: it goes to the address of the plan that the document names, in the namespace
that the question was for, and merged into the document it makes one that says that the plan is
approved, and that says what it said before under all other paths.  Nothing is sent where the plan
is approved already and such plans are to be left alone, nor where there is no address of it. -/
theorem approval_course (isDocument : IsDocument document)
    (holds : Holds h now s key question document) (skips : Bool) :
    ∃ written, (trace h (onNetwork (Install.approveInstallPlan key skips)) now s).map (·.op) =
        .apiServer question :: written.map .apiServer ∧
      question.method = .get ∧ Writes key.ns skips document written := by
  obtain ⟨plan, hread⟩ := isDocument.read
  obtain ⟨response, hreply, hfault, hdocument⟩ := holds.answered
  have hget : Runs h (carryOut (.getInstallPlan key)) now s _ _ :=
    runs_mapError_ok_iff.mpr (runs_send_ok_iff.mpr ⟨question, response, holds.asked, hreply,
      bodyOf_eq_ok hfault hdocument hread, rfl, rfl, rfl⟩)
  have hmethod : question.method = .get := getBare_eq_ok (named_eq_ok holds.asked).2
  obtain ⟨explain, happroval⟩ := onNetwork_approveInstallPlan key skips
  have hplan := runs_mapError_ok_iff (f := explain).mpr hget
  rw [happroval, trace_bind, hplan.trace_eq, hplan.run_eq]
  dsimp only
  split
  · rename_i hskipped
    obtain ⟨hskips, hplan⟩ := Bool.and_eq_true_iff.mp hskipped
    exact ⟨[], rfl, hmethod, .left hskips ((isDocument.approved_eq_true_iff hread).mp hplan)⟩
  · rename_i hneeded
    have needed : ¬ (skips = true ∧ SaysApproved document) := by
      rintro ⟨hskips, happroved⟩
      exact hneeded (Bool.and_eq_true_iff.mpr
        ⟨hskips, (isDocument.approved_eq_true_iff hread).mpr happroved⟩)
    obtain ⟨written, hsent, hwrites⟩ := writes_updateInstallPlan isDocument hread needed h _ _
    refine ⟨written, ?_, hmethod, hwrites⟩
    have hquiet := trace_bind_ofExcept h
      (carryOut (.updateInstallPlan key.ns plan.approve)) fun _ => .ok true
    rw [List.map_append, ← hsent]
    exact congrArg _ (congrArg _ (hquiet _ _))

/-- A plan that waits for its approval, with parts that are not read. -/
def waiting (name : String) : Json :=
  .object [("apiVersion", .string "v1"), ("kind", .string "A"),
    ("metadata", .object [("name", .string name), ("zone", .string "z")]),
    ("spec", .object [("approved", .bool false), ("weight", .int 3)]), ("spare", .array [.null])]

lemma isDocument_waiting (name : String) : IsDocument (waiting name) :=
  ⟨⟨_, rfl⟩, ⟨_, rfl⟩, ⟨{ name := some name }, {}, none⟩, rfl⟩

/-- A server that answers whatever it is asked with the document. -/
def answering (document : Json) : Handler Network Unit := fun _ _ _ =>
  ⟨.ok ⟨200, String.ofList document.write⟩, 0, ()⟩

/-- The question for a plan. -/
def planQuestion (target : String) : Request where
  method := .get
  target := target
  query := []
  contentType := none
  body := none

/-- A plan with parts that are not read is approved. -/
theorem approval_course_waiting :
    IsDocument (waiting "p") ∧
    Holds (answering (waiting "p")) 0 () ⟨"db", "p"⟩ (planQuestion (InstallPlan.address "db" "p"))
      (waiting "p") ∧
    ∃ request, Approves "db" "p" (waiting "p") request ∧
      (trace (answering (waiting "p"))
        (onNetwork (Install.approveInstallPlan ⟨"db", "p"⟩ true)) 0 ()).map (·.op) =
          [.apiServer (planQuestion (InstallPlan.address "db" "p")), .apiServer request] := by
  have hread : (Json.read (String.ofList (waiting "p").write).toList).toOption =
      some (waiting "p") := by
    decide +kernel
  have holds : Holds (answering (waiting "p")) 0 () ⟨"db", "p"⟩
      (planQuestion (InstallPlan.address "db" "p")) (waiting "p") :=
    ⟨by decide +kernel, _, rfl, rfl, toOption_eq_some_iff.mp hread⟩
  obtain ⟨written, hsent, -, hwrites⟩ := approval_course (isDocument_waiting "p") holds true
  refine ⟨isDocument_waiting "p", holds, ?_⟩
  cases hwrites with
  | left skipped approved => exact absurd approved (by rw [SaysApproved]; decide)
  | unaddressed needed invalid =>
    rcases invalid "p" rfl with hname | hinvalid
    · exact absurd hname (by decide)
    · exact absurd hinvalid (by decide +kernel)
  | written needed named approves =>
    cases named
    exact ⟨_, approves, hsent⟩

/-- A number sign ends the path: what is written for the plan p#1 goes to the plan p. -/
theorem approval_of_another :
    IsDocument (waiting "p#1") ∧
      (waiting "p#1").at? ["metadata", "name"] = some (.string "p#1") ∧
      (sent .patch (trace (answering (waiting "p#1"))
        (onNetwork (Install.approveInstallPlan ⟨"db", "p#1"⟩ true)) 0 ())).map (·.target) =
          [InstallPlan.address "db" "p"] :=
  ⟨isDocument_waiting "p#1", rfl, by decide +kernel⟩

end ApiServer

end Provisioner
