import Provisioner.Olm.Subscription
/-!
# States of an install

An install goes through fixed states:

  start → subscription created → awaiting install plan → install plan approved
        → awaiting completion → succeeded

The plan and the service version found on the way are kept in the states that need them.  Each
state but the last two has a higher `rank` than the one after it, so an install is at an end after
five steps at most.
-/

namespace Provisioner

/-- Where an install stands. -/
inductive InstallState where
  /-- Nothing is created yet. -/
  | start
  /-- The subscription is there; no plan is known. -/
  | subscriptionCreated
  /-- There is a plan of this name, to be approved. -/
  | awaitingInstallPlan (plan : String)
  /-- The plan is approved. -/
  | installPlanApproved
  /-- The service version is being installed. -/
  | awaitingCompletion (version : ObjectKey)
  /-- The operator is installed. -/
  | succeeded
  /-- The install was given up. -/
  | failed
deriving DecidableEq

namespace InstallState

/-- The name of a state. -/
def name : InstallState → String
  | start => "Start"
  | subscriptionCreated => "SubscriptionCreated"
  | awaitingInstallPlan _ => "AwaitingInstallPlan"
  | installPlanApproved => "InstallPlanApproved"
  | awaitingCompletion _ => "AwaitingCompletion"
  | succeeded => "Succeeded"
  | failed => "Failed"

/-- Whether an install is at an end. -/
def isTerminal : InstallState → Bool
  | succeeded | failed => true
  | _ => false

/-- How many steps there can be from a state to the end. -/
def rank : InstallState → Nat
  | start => 5
  | subscriptionCreated => 4
  | awaitingInstallPlan _ => 3
  | installPlanApproved => 2
  | awaitingCompletion _ => 1
  | succeeded | failed => 0

end InstallState

/-- What kind of install it is. -/
inductive InstallMode where
  /-- A new install: its plan is always approved. -/
  | install
  /-- An upgrade: a plan that is approved already is left alone. -/
  | upgrade
  /-- A part of the operator lifecycle manager itself: treated like an upgrade. -/
  | bootstrap
deriving DecidableEq

/-- What to install. -/
structure InstallRequest where
  /-- Namespace of the subscription and of the operator group. -/
  ns : String
  /-- Name of the package, and of the subscription. -/
  name : String
  /-- Operator group that must be there. -/
  operatorGroup : String
  /-- Catalog of the package. -/
  catalogSource : String
  /-- Namespace of the catalog. -/
  catalogSourceNamespace : String
  /-- Channel to follow. -/
  channel : String
  /-- Service version to start from. -/
  startingVersion : Option String := none
  /-- Whether to wait until the service version is installed. -/
  waitForCompletion : Bool := false
deriving DecidableEq

namespace InstallRequest

/-- Namespace and name of the subscription. -/
def key (r : InstallRequest) : ObjectKey := ⟨r.ns, r.name⟩

/-- The subscription; its plans have to be approved by somebody. -/
def subscription (r : InstallRequest) : Subscription where
  metadata := { name := some r.name, ns := some r.ns }
  spec := {
    source := r.catalogSource, sourceNamespace := r.catalogSourceNamespace, package := r.name,
    channel := some r.channel, startingVersion := r.startingVersion, approval := some .manual }

end InstallRequest

/-- An install to be carried out. -/
structure InstallRun where
  /-- The subscription that is followed. -/
  subscription : ObjectKey
  /-- What kind of install it is. -/
  mode : InstallMode
  /-- What to install; needed from the first state only. -/
  request : Option InstallRequest := none
  /-- Whether to wait until the service version is installed. -/
  waitForCompletion : Bool := false
deriving DecidableEq

namespace InstallRun

/-- A new install. -/
def install (r : InstallRequest) : InstallRun where
  subscription := r.key
  mode := .install
  request := some r
  waitForCompletion := r.waitForCompletion

/-- An upgrade of a subscription that is there. -/
def upgrade (subscription : ObjectKey) : InstallRun where
  subscription := subscription
  mode := .upgrade

/-- An install of a part of the operator lifecycle manager. -/
def bootstrap (subscription : ObjectKey) : InstallRun where
  subscription := subscription
  mode := .bootstrap
  waitForCompletion := true

/-- Whether a plan that is approved already is left alone. -/
def skipsApproved (run : InstallRun) : Bool := run.mode != .install

end InstallRun

end Provisioner
