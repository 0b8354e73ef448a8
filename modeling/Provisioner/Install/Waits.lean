import Provisioner.Cluster.Call
import Provisioner.Install.State
import Provisioner.Poll
/-!
# Steps of an install

The work of one step each: creating what is missing, approving the plan, and the waits for what
the operator lifecycle manager does in between.  Each wait looks at one object again and again and
passes over everything but what it waits for, an error, and a failed install.
-/

namespace Provisioner.Install

/-- Make sure that an operator group is there; one that is there is left alone. -/
def ensureOperatorGroup (key : ObjectKey) : Work Unit := do
  match ← (Call.getOperatorGroup key).perform with
  | some _ => return
  | none =>
    let _ ← (Call.createOperatorGroup key).perform

/-- Create the subscription of a request, and its operator group if that is missing. -/
def createSubscription (request : InstallRequest) : Work Unit := do
  ensureOperatorGroup ⟨request.ns, request.operatorGroup⟩
  let _ ← (Call.createSubscription request.subscription).perform.mapError fun e =>
    Error.install request.name InstallState.start.name
      ("cannot create a subscription to install the operator: " ++ e.message)

/-- Wait until a subscription names its install plan. -/
def awaitInstallPlan (poll : Poll) (subscription : ObjectKey) : Work String :=
  (poll.waitFor ("install plan of subscription " ++ subscription.text) do
    let found ← (Call.getSubscription subscription).perform
    return found.bind (·.installPlanName?)).mapError fun e =>
      if e.isTimeout then
        .install subscription.name InstallState.subscriptionCreated.name
          ("cannot resolve install plan: " ++ e.message)
      else e

/-- Approve an install plan; whether it was written.  A plan that is approved already can be left
alone. -/
def approveInstallPlan (key : ObjectKey) (skipIfApproved : Bool) : Work Bool := do
  let plan ← (Call.getInstallPlan key).perform.mapError fun e =>
    Error.internal "approve_install_plan"
      ("cannot get install plan " ++ key.text ++ ": " ++ e.message)
  if skipIfApproved && plan.spec.approved then return false
  else
    let _ ← (Call.updateInstallPlan key.ns plan.approve).perform
    return true

/-- Wait until a subscription names the service version that is installed. -/
def awaitInstalledVersion (poll : Poll) (subscription : ObjectKey) : Work ObjectKey := do
  let name ← poll.waitFor ("subscription " ++ subscription.text ++ " to install a CSV") do
    let found ← (Call.getSubscription subscription).perform
    return found.bind (·.installedVersion?)
  return ⟨subscription.ns, name⟩

/-- Wait until a service version is installed; an install that has failed ends the wait. -/
def awaitVersionSucceeded (poll : Poll) (version : ObjectKey) : Work Unit :=
  poll.waitUntil ("clusterserviceversion " ++ version.text ++ " to reach Succeeded") do
    match ← (Call.getServiceVersion version).perform with
    | none => return false
    | some found =>
      if found.isFailed then
        .fail (.install version.name (InstallState.awaitingCompletion version).name
          ("clusterserviceversion failed: " ++ found.failureDetail))
      else return found.isSucceeded

/-- Wait until the rollout of a deployment is complete; one that is missing is not complete. -/
def waitForRollout (poll : Poll) (deployment : ObjectKey) : Work Unit :=
  poll.waitUntil ("rollout of deployment " ++ deployment.text) do
    let found ← (Call.getDeployment deployment).perform
    return found.any (·.isRolloutComplete)

end Provisioner.Install
