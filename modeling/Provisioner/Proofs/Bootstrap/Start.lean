import Provisioner.Install.Bootstrap
import Provisioner.Olm.Subscription
import Provisioner.Proofs.Json.Fields
import Provisioner.Proofs.Manifest.Documents
/-!
# Where a declared subscription begins

A declared subscription is looked at twice.  As an object of its kind it has an approval mode, or
none, and null is the same as none; the bootstrap takes the mode from the document itself, by a path
of member names.  The two agree, except that a null is an error to the bootstrap, and that it does
not see the mode in a specification that is written as an array of its parts.
-/

namespace Provisioner.Install

/-- The state in which a subscription of an approval mode begins; without a mode the manager
approves. -/
def startOf : Option Approval → InstallState
  | some .manual => .subscriptionCreated
  | some .automatic | none => .installPlanApproved

/-- Where a document says who approves install plans. -/
def approvalPath : List String := ["spec", "installPlanApproval"]

/-- The specification is written as an array of its parts. -/
def SpecByPosition (document : Json) : Prop :=
  ∃ items, document.get? "spec" = some (.array items)

/-- What stands under the path of the approval mode, beside the mode that a subscription has. -/
inductive ApprovalReading (document : Json) : Option Approval → Prop
  | absent (named : ¬ SpecByPosition document) (absent : document.at? approvalPath = none) :
      ApprovalReading document none
  | null (named : ¬ SpecByPosition document) (null : document.at? approvalPath = some .null) :
      ApprovalReading document none
  | said {value : Json} {mode : Approval} (named : ¬ SpecByPosition document)
      (given : document.at? approvalPath = some value) (written : value ≠ .null)
      (read : Approval.decode value = .ok mode) : ApprovalReading document (some mode)
  | positional {approval : Option Approval} (positional : SpecByPosition document)
      (absent : document.at? approvalPath = none) : ApprovalReading document approval

variable {document : Json} {r : Resource} {s : Subscription}

/-! ## The two readings of a document -/

lemma approvalReading_of_spec {specification : Json} {spec : SubscriptionSpec}
    (hspec : document.get? "spec" = some specification)
    (hread : SubscriptionSpec.decode specification = .ok spec) :
    ApprovalReading document spec.approval := by
  have hpath : document.at? approvalPath = specification.get? "installPlanApproval" := by
    rw [approvalPath, Json.at?_cons, hspec, Option.bind_some, Json.at?_cons]
    cases specification.get? "installPlanApproval" <;> rfl
  obtain ⟨fields, hfields, hthen⟩ := bind_eq_ok_iff.mp hread
  cases specification with
  | array items => exact .positional ⟨items, hspec⟩ hpath
  | object members =>
    have hnamed : ¬ SpecByPosition document := by
      rintro ⟨items, hitems⟩
      cases hspec.symm.trans hitems
    simp only [Bind.bind, bind_eq_ok_iff] at hthen
    -- the mode is the last of six fields
    obtain ⟨_, -, _, -, _, -, _, -, _, -, approval, happroval, hend⟩ := hthen
    cases hend
    have hfind : fields.members.find? "installPlanApproval" = document.at? approvalPath :=
      (Json.find?_of_closed (by simp) hfields).trans hpath.symm
    obtain ⟨rfl, habsent | hnull⟩ | ⟨value, mode, hgiven, hwritten, hmode, rfl⟩ :=
      Json.optional_eq_ok happroval
    · exact .absent hnamed (hfind.symm.trans habsent)
    · exact .null hnamed (hfind.symm.trans hnull)
    · exact .said hnamed (hfind.symm.trans hgiven) hwritten hmode
  | _ => cases hfields

lemma approvalReading (hresource : Resource.ofJson document = .ok r)
    (hread : Subscription.decode document = .ok s) :
    r.body = document ∧ ApprovalReading document s.spec.approval := by
  obtain ⟨⟨members, rfl⟩, -, -, -, -, hbody⟩ := Resource.ofJson_eq_ok_iff.mp hresource
  obtain ⟨-, -, specification, spec, -, -, -, hspec, hdecode, rfl⟩ :=
    Json.exists_of_decodeObject hread
  exact ⟨hbody, approvalReading_of_spec hspec hdecode⟩

/-! ## Where the bootstrap begins -/

lemma bootstrapStart_of_absent (habsent : r.body.at? approvalPath = none) :
    bootstrapStart r = .ok .installPlanApproved := by
  rw [approvalPath] at habsent
  rw [bootstrapStart, habsent]

lemma bootstrapStart_of_mode {value : Json} {mode : Approval}
    (hgiven : r.body.at? approvalPath = some value) (hmode : Approval.decode value = .ok mode) :
    bootstrapStart r = .ok (startOf (some mode)) := by
  rw [approvalPath] at hgiven
  rw [bootstrapStart, hgiven]
  dsimp only
  rw [hmode]
  cases mode <;> rfl

lemma bootstrapStart_of_null (hnull : r.body.at? approvalPath = some .null) :
    bootstrapStart r = .error (.manifest
      ("subscription " ++ r.name ++ " has invalid installPlanApproval " ++ "null")) := by
  rw [approvalPath] at hnull
  rw [bootstrapStart, hnull]
  rfl

/-- A declared subscription begins where its approval mode says, unless the mode is given as null,
or is approval by hand in a specification that is an array.  A null stops the bootstrap, though the
subscription has no mode; in an array the mode is not seen. -/
theorem bootstrapStart_agrees_iff (hresource : Resource.ofJson document = .ok r)
    (hread : Subscription.decode document = .ok s) :
    (bootstrapStart r = .ok (startOf s.spec.approval) ↔
      document.at? approvalPath ≠ some .null ∧
        ¬ (SpecByPosition document ∧ s.spec.approval = some .manual)) ∧
    (document.at? approvalPath = some .null → s.spec.approval = none ∧
      bootstrapStart r = .error (.manifest
        ("subscription " ++ r.name ++ " has invalid installPlanApproval " ++ "null"))) ∧
    (SpecByPosition document → bootstrapStart r = .ok .installPlanApproved) := by
  obtain ⟨hbody, hreading⟩ := approvalReading hresource hread
  generalize s.spec.approval = approval at hreading
  cases hreading with
  | absent named absent =>
    have hstart := bootstrapStart_of_absent (hbody ▸ absent)
    simp [hstart, absent, named, startOf]
  | null named null =>
    have hstart := bootstrapStart_of_null (hbody ▸ null)
    simp [hstart, null, named]
  | said named given written read =>
    have hstart := bootstrapStart_of_mode (hbody ▸ given) read
    simp [hstart, given, written, named]
  | positional positional absent =>
    have hstart := bootstrapStart_of_absent (hbody ▸ absent)
    rw [hstart]
    obtain _ | _ | _ := approval <;> simp [absent, positional, startOf]

/-- A subscription that says something about approval. -/
def packageServerDocument (approval : Json) : Json :=
  .object [("apiVersion", .string "operators.coreos.com/v1alpha1"), ("kind", .string "Subscription"),
    ("metadata", .object [("name", .string "packageserver"), ("namespace", .string "olm")]),
    ("spec", .object [("installPlanApproval", approval), ("name", .string "packageserver"),
      ("source", .string "olm"), ("sourceNamespace", .string "olm")])]

theorem bootstrapStart_agrees_manual :
    ∃ r s, Resource.ofJson (packageServerDocument (.string "Manual")) = .ok r ∧
      Subscription.decode (packageServerDocument (.string "Manual")) = .ok s ∧
      s.spec.approval = some .manual ∧ bootstrapStart r = .ok .subscriptionCreated := by
  have hresource : Resource.ofJson (packageServerDocument (.string "Manual")) = .ok _ := rfl
  have hread : Subscription.decode (packageServerDocument (.string "Manual")) = .ok _ := rfl
  have hnamed : ¬ SpecByPosition (packageServerDocument (.string "Manual")) := by
    rintro ⟨items, hitems⟩
    cases hitems
  exact ⟨_, _, hresource, hread, rfl,
    (bootstrapStart_agrees_iff hresource hread).1.mpr ⟨by decide, fun h => hnamed h.1⟩⟩

/-- Null is no mode to the object, and no valid one to the bootstrap. -/
theorem bootstrapStart_disagrees :
    ∃ r s, Resource.ofJson (packageServerDocument .null) = .ok r ∧
      Subscription.decode (packageServerDocument .null) = .ok s ∧ s.spec.approval = none ∧
      bootstrapStart r = .error (.manifest
        "subscription packageserver has invalid installPlanApproval null") :=
  ⟨_, _, rfl, rfl, rfl, rfl⟩

end Provisioner.Install
