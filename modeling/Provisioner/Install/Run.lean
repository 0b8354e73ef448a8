import Provisioner.Install.Waits
/-!
# Carrying out an install

`step` makes the one step that leads out of a state, and `carryOut` makes steps until the end is
reached.  A step that fails ends the install with an error that names the operator and the state
that the install was in.
-/

namespace Provisioner.Install

open InstallState

/-- The step out of a state, to a state of lower rank; a terminal state stays as it is. -/
def advance (poll : Poll) (run : InstallRun) :
    (s : InstallState) → Work { t : InstallState // t.rank < s.rank ∨ s.isTerminal = true }
  | start => do
    match run.request with
    | none =>
      .fail (.precondition "Start" "creating a subscription needs an install request")
    | some request =>
      createSubscription request
      return ⟨subscriptionCreated, .inl (by decide)⟩
  | subscriptionCreated => do
    let plan ← awaitInstallPlan poll run.subscription
    return ⟨awaitingInstallPlan plan, .inl (by simp [rank])⟩
  | awaitingInstallPlan plan => do
    let _ ← approveInstallPlan ⟨run.subscription.ns, plan⟩ run.skipsApproved
    return ⟨installPlanApproved, .inl (by simp [rank])⟩
  | installPlanApproved => do
    if run.waitForCompletion then
      let version ← awaitInstalledVersion poll run.subscription
      return ⟨awaitingCompletion version, .inl (by simp [rank])⟩
    else return ⟨succeeded, .inl (by decide)⟩
  | awaitingCompletion version => do
    awaitVersionSucceeded poll version
    return ⟨succeeded, .inl (by simp [rank])⟩
  | succeeded => return ⟨succeeded, .inr rfl⟩
  | failed => return ⟨failed, .inr rfl⟩

/-- The state after the one step that leads out of a state. -/
def step (poll : Poll) (run : InstallRun) (s : InstallState) : Work InstallState := do
  return (← advance poll run s).val

/-- A failed step as the failure of an install in a state; one that says so already is kept. -/
def inPhase (run : InstallRun) (s : InstallState) (e : Error) : Error :=
  if e.isInstall then e else .install run.subscription.name s.name e.message

/-- Make steps from a state until the end. -/
def carryOut (poll : Poll) (run : InstallRun) (s : InstallState) : Work Unit :=
  if h : s.isTerminal = true then
    if s = succeeded then return ()
    else
      .fail (.install run.subscription.name s.name "run started in a terminal failure state")
  else do
    let next ← (advance poll run s).mapError (inPhase run s)
    have : next.val.rank < s.rank := next.property.resolve_right h
    carryOut poll run next.val
termination_by s.rank

/-- Install an operator. -/
def installOperator (poll : Poll) (request : InstallRequest) : Work Unit :=
  carryOut poll (.install request) start

/-- Approve the plan of an operator that is installed, unless it is approved already. -/
def upgradeOperator (poll : Poll) (subscription : ObjectKey) : Work Unit :=
  carryOut poll (.upgrade subscription) subscriptionCreated

end Provisioner.Install
