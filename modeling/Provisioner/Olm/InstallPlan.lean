import Provisioner.Olm.Subscription
/-!
# Install plans

An install plan is what the manager would do to serve a subscription.  It is carried out once it
is approved.
-/

namespace Provisioner

open Json (Decoder Fields member member?)

/-- What an install plan would do. -/
structure InstallPlanSpec where
  /-- Who approves it. -/
  approval : Approval := .automatic
  /-- Whether it is approved. -/
  approved : Bool := false
  /-- Names of the service versions that it installs. -/
  versions : List String := []
deriving DecidableEq

/-- What became of an install plan. -/
structure InstallPlanStatus where
  /-- Phase in one word. -/
  phase : Option String := none
deriving DecidableEq

/-- An install plan. -/
structure InstallPlan where
  metadata : ObjectMeta
  spec : InstallPlanSpec
  status : Option InstallPlanStatus := none
deriving DecidableEq

namespace InstallPlanSpec

/-- Read what an install plan would do. -/
def decode : Decoder InstallPlanSpec := fun value => do
  let fields ← Fields.closed ["approval", "approved", "clusterServiceVersionNames"] value
  return {
    approval := ← fields.defaulted "approval" Approval.decode .automatic
    approved := ← fields.defaulted "approved" Decoder.bool false
    versions := ← fields.defaulted "clusterServiceVersionNames" (Decoder.list Decoder.string) [] }

/-- Write what an install plan would do. -/
def encode (s : InstallPlanSpec) : Json :=
  Json.ofMembers (member "approval" s.approval.encode ++ member "approved" (.bool s.approved) ++
    member "clusterServiceVersionNames" (Json.ofList .string s.versions))

end InstallPlanSpec

namespace InstallPlanStatus

/-- Read what became of an install plan. -/
def decode : Decoder InstallPlanStatus := fun value => do
  let fields ← Fields.closed ["phase"] value
  return { phase := ← fields.optional "phase" Decoder.string }

/-- Write what became of an install plan. -/
def encode (s : InstallPlanStatus) : Json := Json.ofMembers (member? "phase" .string s.phase)

end InstallPlanStatus

namespace InstallPlan

/-- Install plans of the operator lifecycle manager. -/
def kind : ResourceKind := {
  group := olmGroup, version := "v1alpha1", kind := "InstallPlan", plural := "installplans",
  shortNames := ["ip"] }

/-- Read an install plan. -/
def decode : Decoder InstallPlan :=
  decodeObject InstallPlanSpec.decode InstallPlanStatus.decode InstallPlan.mk

/-- Write an install plan. -/
def encode (p : InstallPlan) : Json :=
  encodeObject kind InstallPlanSpec.encode InstallPlanStatus.encode p.metadata p.spec p.status

/-- The same plan, approved. -/
def approve (p : InstallPlan) : InstallPlan := { p with spec := { p.spec with approved := true } }

end InstallPlan

end Provisioner
