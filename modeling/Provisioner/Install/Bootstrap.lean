import Provisioner.Install.Run
import Provisioner.Json.Printer
import Provisioner.Manifest.Decode
import Provisioner.Manifest.Source
/-!
# Installing the operator lifecycle manager

The manager is installed from three manifests, unless it is there already.  Once its two
operators have rolled out, every subscription that the first two manifests declare is carried
through its install, and last the package server has to roll out.
-/

namespace Provisioner.Install

open Manifest (Source)

/-- Deployment that is there exactly when the manager is installed. -/
def olmOperator : String := "olm-operator"

/-- Deployment of the catalog operator. -/
def catalogOperator : String := "catalog-operator"

/-- Deployment of the package server, which is the last to come up. -/
def packageServer : String := "packageserver"

/-- A step that cannot fail but by its value. -/
def ofManifest {α : Type} (result : Except ManifestError α) : Work α :=
  Program.ofExcept (result.mapError fun e => .manifest e.message)

/-- The state from which a declared subscription is carried through: its plan has to be approved
when it asks for that, and only awaited otherwise. -/
def bootstrapStart (subscription : Resource) : Except Error InstallState :=
  match subscription.body.at? ["spec", "installPlanApproval"] with
  | none => .ok .installPlanApproved
  | some value =>
    match Approval.decode value with
    | .ok .manual => .ok .subscriptionCreated
    | .ok .automatic => .ok .installPlanApproved
    | .error _ =>
      .error (.manifest
        ("subscription " ++ subscription.name ++ " has invalid installPlanApproval " ++ value.text))

/-- Carry a declared subscription through its install. -/
def bootstrapSubscription (poll : Poll) (subscription : Resource) : Work Unit :=
  match subscription.ns with
  | none =>
    .fail (.precondition "install_olm"
      ("subscription " ++ subscription.name ++ " has no namespace"))
  | some ns => do
    let state ← Program.ofExcept (bootstrapStart subscription)
    carryOut poll (.bootstrap ⟨ns, subscription.name⟩) state

/-- Carry each of the declared subscriptions through its install, in order. -/
def bootstrapAll (poll : Poll) : List Resource → Work Unit
  | [] => return ()
  | subscription :: rest => do
    bootstrapSubscription poll subscription
    bootstrapAll poll rest

/-- Apply a manifest of the manager. -/
def applyFile (path : String) (bytes : Text.Utf8.Bytes) : Work Unit :=
  (Call.applyManifest bytes).perform.mapError fun e =>
    Error.internal "install_olm" ("cannot apply " ++ path ++ ": " ++ e.message)

/-- Whether a resource is a subscription. -/
def isSubscription (r : Resource) : Bool := r.isKind olmGroup "v1alpha1" "Subscription"

/-- Install the operator lifecycle manager into a namespace, unless it is there. -/
def installOlm (poll : Poll) (source : Source) (ns : String) : Work Unit := do
  match ← (Call.getDeployment ⟨ns, olmOperator⟩).perform with
  | some _ => return
  | none =>
    let definitions ← Program.ofExcept (source Manifest.olmDefinitions)
    let components ← Program.ofExcept (source Manifest.olmComponents)
    let catalog ← Program.ofExcept (source Manifest.catalog)
    applyFile Manifest.olmDefinitions definitions
    applyFile Manifest.olmComponents components
    applyFile Manifest.catalog catalog
    waitForRollout poll ⟨ns, olmOperator⟩
    waitForRollout poll ⟨ns, catalogOperator⟩
    let first ← ofManifest (Manifest.decode definitions)
    let second ← ofManifest (Manifest.decode components)
    bootstrapAll poll ((first ++ second).filter isSubscription)
    waitForRollout poll ⟨ns, packageServer⟩

end Provisioner.Install
