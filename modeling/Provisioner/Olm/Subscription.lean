import Provisioner.Kube.Object
/-!
# Subscriptions

A subscription asks the operator lifecycle manager to keep a package from a catalog installed.  Its
status names the install plan that would bring the package up to date and the service version that
is installed.
-/

namespace Provisioner

open Json (Decoder Fields member member?)

/-- Group of the kinds of the operator lifecycle manager. -/
def olmGroup : String := "operators.coreos.com"

/-- Who approves install plans. -/
inductive Approval where
  /-- The manager does. -/
  | automatic
  /-- Somebody has to. -/
  | manual
deriving DecidableEq

/-- What a subscription asks for. -/
structure SubscriptionSpec where
  /-- Name of the catalog. -/
  source : String
  /-- Namespace of the catalog. -/
  sourceNamespace : String
  /-- Name of the package. -/
  package : String
  /-- Channel to follow. -/
  channel : Option String := none
  /-- Service version to start from. -/
  startingVersion : Option String := none
  /-- Who approves install plans. -/
  approval : Option Approval := none
deriving DecidableEq

/-- A reference to an install plan. -/
structure PlanReference where
  /-- Name of the plan; empty when there is none. -/
  name : String
  apiVersion : Option String := none
  kind : Option String := none
deriving DecidableEq

/-- What became of a subscription. -/
structure SubscriptionStatus where
  /-- The install plan, as older managers report it. -/
  installPlan : Option PlanReference := none
  /-- The install plan, as newer managers report it. -/
  installPlanRef : Option PlanReference := none
  /-- The service version that is installed. -/
  installedVersion : Option String := none
  /-- The latest service version known. -/
  currentVersion : Option String := none
  /-- State in one word. -/
  state : Option String := none
deriving DecidableEq

/-- A subscription. -/
structure Subscription where
  metadata : ObjectMeta
  spec : SubscriptionSpec
  status : Option SubscriptionStatus := none
deriving DecidableEq

namespace Approval

/-- The name of an approval mode. -/
def text : Approval → String
  | automatic => "Automatic"
  | manual => "Manual"

/-- An approval mode is its name, or an object whose one member is its name with null. -/
def decode : Decoder Approval
  | .string s => ofText s
  | .object [(s, .null)] => ofText s
  | _ => .error (.expected "an approval mode")
where
  /-- The approval mode of a name. -/
  ofText (s : String) : Except Json.DecodeError Approval :=
    if s = automatic.text then .ok automatic
    else if s = manual.text then .ok manual
    else .error (.unknown s)

/-- An approval mode is written as its name. -/
def encode (a : Approval) : Json := .string a.text

end Approval

namespace SubscriptionSpec

/-- Read what a subscription asks for. -/
def decode : Decoder SubscriptionSpec := fun value => do
  let fields ← Fields.closed
    ["source", "sourceNamespace", "name", "channel", "startingCSV", "installPlanApproval"] value
  return {
    source := ← fields.required "source" Decoder.string
    sourceNamespace := ← fields.required "sourceNamespace" Decoder.string
    package := ← fields.required "name" Decoder.string
    channel := ← fields.optional "channel" Decoder.string
    startingVersion := ← fields.optional "startingCSV" Decoder.string
    approval := ← fields.optional "installPlanApproval" Approval.decode }

/-- Write what a subscription asks for. -/
def encode (s : SubscriptionSpec) : Json :=
  Json.ofMembers (member "source" (.string s.source) ++
    member "sourceNamespace" (.string s.sourceNamespace) ++ member "name" (.string s.package) ++
    member? "channel" .string s.channel ++ member? "startingCSV" .string s.startingVersion ++
    member? "installPlanApproval" Approval.encode s.approval)

end SubscriptionSpec

namespace PlanReference

/-- Read a reference. -/
def decode : Decoder PlanReference := fun value => do
  let fields ← Fields.closed ["name", "apiVersion", "kind"] value
  return {
    name := ← fields.defaulted "name" Decoder.string ""
    apiVersion := ← fields.optional "apiVersion" Decoder.string
    kind := ← fields.optional "kind" Decoder.string }

/-- Write a reference. -/
def encode (r : PlanReference) : Json :=
  Json.ofMembers (member "name" (.string r.name) ++ member? "apiVersion" .string r.apiVersion ++
    member? "kind" .string r.kind)

end PlanReference

namespace SubscriptionStatus

/-- Read what became of a subscription. -/
def decode : Decoder SubscriptionStatus := fun value => do
  let fields ← Fields.closed
    ["installplan", "installPlanRef", "installedCSV", "currentCSV", "state"] value
  return {
    installPlan := ← fields.optional "installplan" PlanReference.decode
    installPlanRef := ← fields.optional "installPlanRef" PlanReference.decode
    installedVersion := ← fields.optional "installedCSV" Decoder.string
    currentVersion := ← fields.optional "currentCSV" Decoder.string
    state := ← fields.optional "state" Decoder.string }

/-- Write what became of a subscription. -/
def encode (s : SubscriptionStatus) : Json :=
  Json.ofMembers (member? "installplan" PlanReference.encode s.installPlan ++
    member? "installPlanRef" PlanReference.encode s.installPlanRef ++
    member? "installedCSV" .string s.installedVersion ++
    member? "currentCSV" .string s.currentVersion ++ member? "state" .string s.state)

end SubscriptionStatus

namespace Subscription

/-- Subscriptions of the operator lifecycle manager. -/
def kind : ResourceKind := {
  group := olmGroup, version := "v1alpha1", kind := "Subscription", plural := "subscriptions",
  shortNames := ["sub"] }

/-- Read a subscription. -/
def decode : Decoder Subscription :=
  decodeObject SubscriptionSpec.decode SubscriptionStatus.decode Subscription.mk

/-- Write a subscription. -/
def encode (s : Subscription) : Json :=
  encodeObject kind SubscriptionSpec.encode SubscriptionStatus.encode s.metadata s.spec s.status

/-- The name of the install plan: the first of the two references that has one. -/
def installPlanName? (s : Subscription) : Option String := do
  let status ← s.status
  let names := [status.installPlan, status.installPlanRef].filterMap (·.map PlanReference.name)
  names.find? fun name => name != ""

/-- The name of the installed service version, unless it is empty. -/
def installedVersion? (s : Subscription) : Option String := do
  let status ← s.status
  let name ← status.installedVersion
  if name = "" then none else some name

end Subscription

end Provisioner
