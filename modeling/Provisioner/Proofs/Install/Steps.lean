import Provisioner.Install.Run
import Provisioner.Proofs.Cluster.Watch
import Mathlib.Data.List.Basic
/-!
# The steps of an install, by their source

What the step out of a state can do, whatever the cluster answers: the calls it makes, with their
answers, and what it comes to.  A step that succeeds is one of the cases of `Progress`, a step that
fails one of those of `Breakdown`, and a step that is not followed to its end one of `Unended`.
Everything else about installs is read off these three.
-/

namespace Provisioner.Install

open Program

variable {σ : Type} {h : Handler Platform σ} {now : Duration} {x : σ}
  {log : List (Event Platform)}

/-! ## What the waits wait for -/

/-- A subscription decides the wait for its plan by naming one. -/
def namedPlan (found : Option Subscription) : Except Error (Option String) :=
  .ok (found.bind (·.installPlanName?))

/-- A subscription decides the wait for its service version by naming one. -/
def namedVersion (found : Option Subscription) : Except Error (Option String) :=
  .ok (found.bind (·.installedVersion?))

/-- The failure of a service version that reports one. -/
def versionError (version : ObjectKey) (found : ServiceVersion) : Error :=
  .install version.name (InstallState.awaitingCompletion version).name
    ("clusterserviceversion failed: " ++ found.failureDetail)

/-- A service version decides the wait for its install by its phase. -/
def reportedPhase (version : ObjectKey) : Option ServiceVersion → Except Error (Option Unit)
  | none => .ok none
  | some found =>
    if found.isFailed then .error (versionError version found)
    else .ok (if found.isSucceeded then some () else none)

/-- Only a service version that is there and has succeeded ends the wait for it well. -/
lemma reportedPhase_eq_some {version : ObjectKey} {answer : Option ServiceVersion} {u : Unit}
    (hread : reportedPhase version answer = .ok (some u)) :
    ∃ found, answer = some found ∧ found.isSucceeded = true := by
  cases answer with
  | none => simp [reportedPhase] at hread
  | some found =>
    refine ⟨found, rfl, ?_⟩
    by_cases hfailed : found.isFailed = true
    · simp [reportedPhase, hfailed] at hread
    · simpa [reportedPhase, hfailed] using hread

/-- Only a service version that is there and has failed ends the wait for it badly. -/
lemma reportedPhase_eq_error {version : ObjectKey} {answer : Option ServiceVersion} {e : Error}
    (hread : reportedPhase version answer = .error e) :
    ∃ found, answer = some found ∧ found.isFailed = true ∧ e = versionError version found := by
  cases answer with
  | none => simp [reportedPhase] at hread
  | some found =>
    by_cases hfailed : found.isFailed = true
    · exact ⟨found, rfl, hfailed, by simpa [reportedPhase, hfailed] using hread.symm⟩
    · simp [reportedPhase, hfailed] at hread

/-- What the wait for a plan is called. -/
def planWait (subscription : ObjectKey) : String :=
  "install plan of subscription " ++ subscription.text

/-- What the wait for the name of a service version is called. -/
def versionWait (subscription : ObjectKey) : String :=
  "subscription " ++ subscription.text ++ " to install a CSV"

/-- What the wait for the install of a service version is called. -/
def completionWait (version : ObjectKey) : String :=
  "clusterserviceversion " ++ version.text ++ " to reach Succeeded"

/-! ## Names that are reported -/

lemma ne_empty_of_installPlanName? {found : Subscription} {plan : String}
    (named : found.installPlanName? = some plan) : plan ≠ "" := by
  obtain ⟨status, -, hfind⟩ := Option.bind_eq_some_iff.mp named
  simpa using List.find?_some hfind

lemma ne_empty_of_installedVersion? {found : Subscription} {version : String}
    (named : found.installedVersion? = some version) : version ≠ "" := by
  obtain ⟨status, -, hstatus⟩ := Option.bind_eq_some_iff.mp named
  obtain ⟨name, -, hname⟩ := Option.bind_eq_some_iff.mp hstatus
  split at hname
  case isTrue => cases hname
  case isFalse hne => cases hname; exact hne

/-! ## The cases of a step -/

/-- The operator group of a request. -/
def groupKey (request : InstallRequest) : ObjectKey := ⟨request.ns, request.operatorGroup⟩

/-- The events of making sure that an operator group is there. -/
inductive GroupEnsured (key : ObjectKey) : List (Event Platform) → Prop
  | found (group : OperatorGroup) (start : Duration) :
      GroupEnsured key [.ofCall (.getOperatorGroup key) (.ok (some group)) start]
  | created (group : OperatorGroup) (start later : Duration) :
      GroupEnsured key [.ofCall (.getOperatorGroup key) (.ok none) start,
        .ofCall (.createOperatorGroup key) (.ok group) later]

/-- The events of failing to do so. -/
inductive GroupRefused (key : ObjectKey) : List (Event Platform) → Error → Prop
  | lookup (e : Error) (start : Duration) :
      GroupRefused key [.ofCall (.getOperatorGroup key) (.error e) start] e
  | creation (e : Error) (start later : Duration) :
      GroupRefused key [.ofCall (.getOperatorGroup key) (.ok none) start,
        .ofCall (.createOperatorGroup key) (.error e) later] e

/-- The calls that ensure an operator group: it is looked up, and created when it is found to be
missing. -/
inductive GroupCalls (key : ObjectKey) : List (Event Platform) → Prop
  | lookup {reply : Except Error (Option OperatorGroup)} {start : Duration}
      (present : reply ≠ .ok none) :
      GroupCalls key [.ofCall (.getOperatorGroup key) reply start]
  | creation {reply : Except Error OperatorGroup} {start later : Duration} :
      GroupCalls key [.ofCall (.getOperatorGroup key) (.ok none) start,
        .ofCall (.createOperatorGroup key) reply later]

lemma GroupEnsured.calls {key : ObjectKey} (hg : GroupEnsured key log) : GroupCalls key log := by
  cases hg with
  | found group start => exact .lookup (by simp)
  | created group start later => exact .creation

lemma GroupRefused.calls {key : ObjectKey} {e : Error} (hg : GroupRefused key log e) :
    GroupCalls key log := by
  cases hg with
  | lookup e start => exact .lookup (by simp)
  | creation e start later => exact .creation

/-- The failure to create the subscription of a request. -/
def creationError (request : InstallRequest) (e : Error) : Error :=
  .install request.name InstallState.start.name
    ("cannot create a subscription to install the operator: " ++ e.message)

/-- The failure of the wait for a plan: one that ran out of time says what it means. -/
def planError (subscription : ObjectKey) (e : Error) : Error :=
  if e.isTimeout then
    .install subscription.name InstallState.subscriptionCreated.name
      ("cannot resolve install plan: " ++ e.message)
  else e

/-- The failure to get a plan. -/
def fetchError (key : ObjectKey) (e : Error) : Error :=
  .internal "approve_install_plan" ("cannot get install plan " ++ key.text ++ ": " ++ e.message)

/-- A step that succeeds: where it starts, what it calls, and where it leads. -/
inductive Progress (run : InstallRun) : InstallState → List (Event Platform) → InstallState → Prop
  | created {request : InstallRequest} {group : List (Event Platform)}
      {subscription : Subscription} {start : Duration} (asked : run.request = some request)
      (ensured : GroupEnsured (groupKey request) group) :
      Progress run .start
        (group ++ [.ofCall (.createSubscription request.subscription) (.ok subscription) start])
        .subscriptionCreated
  | resolved {now : Duration} {log : List (Event Platform)} {found : Option Subscription}
      {plan : String}
      (looks : Looks (.getSubscription run.subscription) namedPlan now log (.ok found))
      (named : found.bind (·.installPlanName?) = some plan) :
      Progress run .subscriptionCreated log (.awaitingInstallPlan plan)
  | left {plan : String} {fetched : InstallPlan} {start : Duration}
      (skips : run.skipsApproved = true) (approved : fetched.spec.approved = true) :
      Progress run (.awaitingInstallPlan plan)
        [.ofCall (.getInstallPlan ⟨run.subscription.ns, plan⟩) (.ok fetched) start]
        .installPlanApproved
  | approved {plan : String} {fetched written : InstallPlan} {start later : Duration}
      (needed : ¬ (run.skipsApproved = true ∧ fetched.spec.approved = true)) :
      Progress run (.awaitingInstallPlan plan)
        [.ofCall (.getInstallPlan ⟨run.subscription.ns, plan⟩) (.ok fetched) start,
          .ofCall (.updateInstallPlan run.subscription.ns fetched.approve) (.ok written) later]
        .installPlanApproved
  | unawaited (ends : run.waitForCompletion = false) :
      Progress run .installPlanApproved [] .succeeded
  | installed {now : Duration} {log : List (Event Platform)} {found : Option Subscription}
      {version : String} (waits : run.waitForCompletion = true)
      (looks : Looks (.getSubscription run.subscription) namedVersion now log (.ok found))
      (named : found.bind (·.installedVersion?) = some version) :
      Progress run .installPlanApproved log (.awaitingCompletion ⟨run.subscription.ns, version⟩)
  | completed {version : ObjectKey} {now : Duration} {log : List (Event Platform)}
      {found : ServiceVersion}
      (looks : Looks (.getServiceVersion version) (reportedPhase version) now log
        (.ok (some found)))
      (succeeded : found.isSucceeded = true) :
      Progress run (.awaitingCompletion version) log .succeeded

/-- A step that fails: where it starts, what it calls, and its error. -/
inductive Breakdown (poll : Poll) (run : InstallRun) :
    InstallState → List (Event Platform) → Error → Duration → Prop
  | unasked {finish : Duration} (unasked : run.request = none) :
      Breakdown poll run .start []
        (.precondition "Start" "creating a subscription needs an install request") finish
  | group {request : InstallRequest} {log : List (Event Platform)} {e : Error} {finish : Duration}
      (asked : run.request = some request) (refused : GroupRefused (groupKey request) log e) :
      Breakdown poll run .start log e finish
  | creation {request : InstallRequest} {group : List (Event Platform)} {e : Error}
      {start finish : Duration} (asked : run.request = some request)
      (ensured : GroupEnsured (groupKey request) group) :
      Breakdown poll run .start
        (group ++ [.ofCall (.createSubscription request.subscription) (.error e) start])
        (creationError request e) finish
  | plan {now finish : Duration} {log : List (Event Platform)} {e : Error}
      (failure : WaitFailed poll (planWait run.subscription) (.getSubscription run.subscription)
        namedPlan now now log e finish) :
      Breakdown poll run .subscriptionCreated log (planError run.subscription e) finish
  | fetch {plan : String} {e : Error} {start finish : Duration} :
      Breakdown poll run (.awaitingInstallPlan plan)
        [.ofCall (.getInstallPlan ⟨run.subscription.ns, plan⟩) (.error e) start]
        (fetchError ⟨run.subscription.ns, plan⟩ e) finish
  | write {plan : String} {fetched : InstallPlan} {e : Error} {start later finish : Duration}
      (needed : ¬ (run.skipsApproved = true ∧ fetched.spec.approved = true)) :
      Breakdown poll run (.awaitingInstallPlan plan)
        [.ofCall (.getInstallPlan ⟨run.subscription.ns, plan⟩) (.ok fetched) start,
          .ofCall (.updateInstallPlan run.subscription.ns fetched.approve) (.error e) later]
        e finish
  | version {now finish : Duration} {log : List (Event Platform)} {e : Error}
      (waits : run.waitForCompletion = true)
      (failure : WaitFailed poll (versionWait run.subscription) (.getSubscription run.subscription)
        namedVersion now now log e finish) :
      Breakdown poll run .installPlanApproved log e finish
  | completion {version : ObjectKey} {now finish : Duration} {log : List (Event Platform)}
      {e : Error}
      (failure : WaitFailed poll (completionWait version) (.getServiceVersion version)
        (reportedPhase version) now now log e finish) :
      Breakdown poll run (.awaitingCompletion version) log e finish

/-- A step that is not followed to its end, which only a wait can be. -/
inductive Unended (run : InstallRun) : InstallState → List (Event Platform) → Prop
  | plan {now : Duration} {log : List (Event Platform)}
      (unended : WaitOpen (.getSubscription run.subscription) namedPlan now log) :
      Unended run .subscriptionCreated log
  | version {now : Duration} {log : List (Event Platform)} (waits : run.waitForCompletion = true)
      (unended : WaitOpen (.getSubscription run.subscription) namedVersion now log) :
      Unended run .installPlanApproved log
  | completion {version : ObjectKey} {now : Duration} {log : List (Event Platform)}
      (unended : WaitOpen (.getServiceVersion version) (reportedPhase version) now log) :
      Unended run (.awaitingCompletion version) log

/-! ## Operator group and subscription -/

lemma runs_ensureOperatorGroup {key : ObjectKey} {o : Outcome σ Error Unit}
    (hr : Runs h (ensureOperatorGroup key) now x log o) :
    (∃ finish y, GroupEnsured key log ∧ o = ⟨some (.ok ()), finish, y⟩) ∨
    (∃ e finish y, GroupRefused key log e ∧ o = ⟨some (.error e), finish, y⟩) := by
  -- the lookup answers, and a group that is missing is created, or the lookup fails
  rcases runs_perform_bind hr with ⟨found, mid, y, rest, hrest, rfl⟩ | ⟨e, finish, y, rfl, rfl⟩
  · cases found with
    | some group =>
      obtain ⟨rfl, rfl⟩ := runs_done_iff.mp hrest
      exact .inl ⟨_, _, .found group now, rfl⟩
    | none =>
      rcases runs_perform_bind hrest with ⟨group, later, z, rest, hend, rfl⟩ |
        ⟨e, finish, z, rfl, rfl⟩
      · obtain ⟨rfl, rfl⟩ := runs_done_iff.mp hend
        exact .inl ⟨_, _, .created group now mid, rfl⟩
      · exact .inr ⟨e, _, _, .creation e now mid, rfl⟩
  · exact .inr ⟨e, _, _, .lookup e now, rfl⟩

variable {poll : Poll} {run : InstallRun}

lemma runs_createSubscription (poll : Poll) {request : InstallRequest}
    {o : Outcome σ Error Unit} (asked : run.request = some request)
    (hr : Runs h (createSubscription request) now x log o) :
    (∃ finish y, Progress run .start log .subscriptionCreated ∧
      o = ⟨some (.ok ()), finish, y⟩) ∨
    (∃ e finish y, Breakdown poll run .start log e finish ∧
      o = ⟨some (.error e), finish, y⟩) := by
  rcases runs_bind hr with ⟨_, mid, y, group, l₂, hgroup, hrest, rfl⟩ |
    ⟨e, finish, y, hgroup, rfl⟩ | ⟨finish, y, hgroup, rfl⟩ <;>
    rcases runs_ensureOperatorGroup hgroup with ⟨finish', y', hensured, ho⟩ |
      ⟨e', finish', y', hrefused, ho⟩ <;> cases ho
  · obtain ⟨o', hcreate, rfl⟩ := runs_bind_done hrest
    obtain ⟨reply, finish, z, rfl, rfl⟩ := runs_perform_mapError hcreate
    cases reply with
    | ok subscription => exact .inl ⟨_, _, .created asked hensured, rfl⟩
    | error e => exact .inr ⟨_, _, _, .creation asked hensured, rfl⟩
  · exact .inr ⟨e, _, _, .group asked hrefused, rfl⟩

/-! ## The approval -/

lemma runs_approveInstallPlan (poll : Poll) {plan : String} {o : Outcome σ Error Bool}
    (hr : Runs h (approveInstallPlan ⟨run.subscription.ns, plan⟩ run.skipsApproved) now x log o) :
    (∃ written finish y, Progress run (.awaitingInstallPlan plan) log .installPlanApproved ∧
      o = ⟨some (.ok written), finish, y⟩) ∨
    (∃ e finish y, Breakdown poll run (.awaitingInstallPlan plan) log e finish ∧
      o = ⟨some (.error e), finish, y⟩) := by
  rcases runs_bind hr with ⟨fetched, mid, y, l₁, l₂, hfetch, hrest, rfl⟩ |
    ⟨e, finish, y, hfetch, rfl⟩ | ⟨finish, y, hfetch, rfl⟩ <;>
    obtain ⟨reply, finish', y', rfl, ho⟩ := runs_perform_mapError hfetch <;>
    cases reply <;> cases ho
  · split at hrest
    case isTrue hleft =>
      obtain ⟨rfl, rfl⟩ := runs_done_iff.mp hrest
      rw [Bool.and_eq_true] at hleft
      exact .inl ⟨false, _, _, .left hleft.1 hleft.2, rfl⟩
    case isFalse hneeded =>
      rw [Bool.and_eq_true] at hneeded
      obtain ⟨o', hwrite, rfl⟩ := runs_bind_done hrest
      obtain ⟨reply, finish, z, rfl, rfl⟩ := runs_perform hwrite
      cases reply with
      | ok written => exact .inl ⟨true, _, _, .approved hneeded, rfl⟩
      | error e => exact .inr ⟨e, _, _, .write hneeded, rfl⟩
  · exact .inr ⟨_, _, _, .fetch, rfl⟩

/-! ## The waits -/

lemma awaitInstallPlan_eq (poll : Poll) (subscription : ObjectKey) :
    awaitInstallPlan poll subscription =
      (poll.watch (planWait subscription) (.getSubscription subscription) namedPlan).mapError
        (planError subscription) := rfl

lemma awaitInstalledVersion_eq (poll : Poll) (subscription : ObjectKey) :
    awaitInstalledVersion poll subscription =
      (poll.watch (versionWait subscription) (.getSubscription subscription) namedVersion).bind
        fun version => .done ⟨subscription.ns, version⟩ := rfl

lemma awaitVersionSucceeded_eq (poll : Poll) (version : ObjectKey) :
    awaitVersionSucceeded poll version =
      poll.watch (completionWait version) (.getServiceVersion version) (reportedPhase version) := by
  unfold awaitVersionSucceeded Poll.watch Poll.waitUntil completionWait
  refine congrArg (poll.waitFor _) ?_
  rw [bind_eq, bind_eq, bind_assoc]
  refine congrArg (Program.bind _) (funext fun answer => ?_)
  cases answer with
  | none => rfl
  | some found =>
    by_cases hfailed : found.isFailed = true
    · simp [reportedPhase, hfailed, Program.ofExcept, versionError]
    · by_cases hsucceeded : found.isSucceeded = true <;>
        simp [reportedPhase, hfailed, hsucceeded, Program.ofExcept]

/-! ## What a step is -/

/-- Without a request there is nothing to create. -/
lemma step_start_of_none (poll : Poll) (unasked : run.request = none) :
    step poll run .start =
      .fail (.precondition "Start" "creating a subscription needs an install request") := by
  simp [step, advance, unasked]

lemma step_start_of_some (poll : Poll) {request : InstallRequest}
    (asked : run.request = some request) :
    step poll run .start =
      (createSubscription request).bind fun _ => .done .subscriptionCreated := by
  simp [step, advance, asked, Program.bind_assoc]

lemma step_subscriptionCreated (poll : Poll) (run : InstallRun) :
    step poll run .subscriptionCreated =
      (awaitInstallPlan poll run.subscription).bind fun plan =>
        .done (.awaitingInstallPlan plan) := by
  simp [step, advance, Program.bind_assoc]

lemma step_awaitingInstallPlan (poll : Poll) (run : InstallRun) (plan : String) :
    step poll run (.awaitingInstallPlan plan) =
      (approveInstallPlan ⟨run.subscription.ns, plan⟩ run.skipsApproved).bind fun _ =>
        .done .installPlanApproved := by
  simp [step, advance, Program.bind_assoc]

/-- A run that waits for its end looks for the service version next. -/
lemma step_installPlanApproved_of_waits (poll : Poll) (waits : run.waitForCompletion = true) :
    step poll run .installPlanApproved =
      (awaitInstalledVersion poll run.subscription).bind fun version =>
        .done (.awaitingCompletion version) := by
  simp [step, advance, waits, Program.bind_assoc]

/-- A run that does not wait has ended with the approval. -/
lemma step_installPlanApproved_of_ends (poll : Poll) (ends : run.waitForCompletion = false) :
    step poll run .installPlanApproved = .done .succeeded := by
  simp [step, advance, ends]

lemma step_awaitingCompletion (poll : Poll) (run : InstallRun) (version : ObjectKey) :
    step poll run (.awaitingCompletion version) =
      (awaitVersionSucceeded poll version).bind fun _ => .done .succeeded := by
  simp [step, advance, Program.bind_assoc]

/-! ## The step out of a state -/

/-- How the step out of a state can go. -/
inductive Stepped (poll : Poll) (run : InstallRun) (s : InstallState)
    (log : List (Event Platform)) :
    Outcome σ Error InstallState → Prop
  | onward {t : InstallState} {finish : Duration} {y : σ} (progress : Progress run s log t) :
      Stepped poll run s log ⟨some (.ok t), finish, y⟩
  | broken {e : Error} {finish : Duration} {y : σ}
      (breakdown : Breakdown poll run s log e finish) :
      Stepped poll run s log ⟨some (.error e), finish, y⟩
  | unended {finish : Duration} {y : σ} (unended : Unended run s log) :
      Stepped poll run s log ⟨none, finish, y⟩

lemma runs_step_start {o : Outcome σ Error InstallState}
    (hr : Runs h (step poll run .start) now x log o) : Stepped poll run .start log o := by
  cases asked : run.request with
  | none =>
    rw [step_start_of_none poll asked] at hr
    obtain ⟨rfl, rfl⟩ := runs_fail_iff.mp hr
    exact .broken (.unasked asked)
  | some request =>
    rw [step_start_of_some poll asked] at hr
    obtain ⟨o', hcreate, rfl⟩ := runs_bind_done hr
    rcases runs_createSubscription poll asked hcreate with
      ⟨finish, y, progress, rfl⟩ | ⟨e, finish, y, breakdown, rfl⟩
    · exact .onward progress
    · exact .broken breakdown

lemma runs_step_subscriptionCreated {o : Outcome σ Error InstallState}
    (hr : Runs h (step poll run .subscriptionCreated) now x log o) :
    Stepped poll run .subscriptionCreated log o := by
  rw [step_subscriptionCreated, awaitInstallPlan_eq] at hr
  obtain ⟨o', hwait, rfl⟩ := runs_bind_done hr
  obtain ⟨o'', hwatch, rfl⟩ := runs_mapError_iff.mp hwait
  cases runs_watch hwatch with
  | found looks decided => exact .onward (.resolved looks (by simpa [namedPlan] using decided))
  | failed failure => exact .broken (.plan failure)
  | unended unended => exact .unended (.plan unended)

lemma runs_step_awaitingInstallPlan {plan : String} {o : Outcome σ Error InstallState}
    (hr : Runs h (step poll run (.awaitingInstallPlan plan)) now x log o) :
    Stepped poll run (.awaitingInstallPlan plan) log o := by
  rw [step_awaitingInstallPlan] at hr
  obtain ⟨o', happrove, rfl⟩ := runs_bind_done hr
  rcases runs_approveInstallPlan poll happrove with
    ⟨written, finish, y, progress, rfl⟩ | ⟨e, finish, y, breakdown, rfl⟩
  · exact .onward progress
  · exact .broken breakdown

lemma runs_step_installPlanApproved {o : Outcome σ Error InstallState}
    (hr : Runs h (step poll run .installPlanApproved) now x log o) :
    Stepped poll run .installPlanApproved log o := by
  cases waits : run.waitForCompletion with
  | true =>
    rw [step_installPlanApproved_of_waits poll waits, awaitInstalledVersion_eq,
      Program.bind_assoc] at hr
    obtain ⟨o', hwatch, rfl⟩ := runs_bind_done hr
    cases runs_watch hwatch with
    | found looks decided =>
      exact .onward (.installed waits looks (by simpa [namedVersion] using decided))
    | failed failure => exact .broken (.version waits failure)
    | unended unended => exact .unended (.version waits unended)
  | false =>
    rw [step_installPlanApproved_of_ends poll waits] at hr
    obtain ⟨rfl, rfl⟩ := runs_done_iff.mp hr
    exact .onward (.unawaited waits)

lemma runs_step_awaitingCompletion {version : ObjectKey} {o : Outcome σ Error InstallState}
    (hr : Runs h (step poll run (.awaitingCompletion version)) now x log o) :
    Stepped poll run (.awaitingCompletion version) log o := by
  rw [step_awaitingCompletion, awaitVersionSucceeded_eq] at hr
  obtain ⟨o', hwatch, rfl⟩ := runs_bind_done hr
  cases runs_watch hwatch with
  | found looks decided =>
    obtain ⟨found, rfl, hsucceeded⟩ := reportedPhase_eq_some decided
    exact .onward (.completed looks hsucceeded)
  | failed failure => exact .broken (.completion failure)
  | unended unended => exact .unended (.completion unended)

/-- Every step goes one of the ways that are listed for the state it starts from. -/
theorem runs_step {s : InstallState} {o : Outcome σ Error InstallState}
    (hs : s.isTerminal = false) (hr : Runs h (step poll run s) now x log o) :
    Stepped poll run s log o := by
  cases s with
  | start => exact runs_step_start hr
  | subscriptionCreated => exact runs_step_subscriptionCreated hr
  | awaitingInstallPlan plan => exact runs_step_awaitingInstallPlan hr
  | installPlanApproved => exact runs_step_installPlanApproved hr
  | awaitingCompletion version => exact runs_step_awaitingCompletion hr
  | succeeded => cases hs
  | failed => cases hs

/-! ## The calls of each state -/

/-- The calls that the step out of a state can make. -/
inductive StepCall (run : InstallRun) : InstallState → Call → Prop
  | lookup {request : InstallRequest} (asked : run.request = some request) :
      StepCall run .start (.getOperatorGroup (groupKey request))
  | group {request : InstallRequest} (asked : run.request = some request) :
      StepCall run .start (.createOperatorGroup (groupKey request))
  | subscription {request : InstallRequest} (asked : run.request = some request) :
      StepCall run .start (.createSubscription request.subscription)
  | plan : StepCall run .subscriptionCreated (.getSubscription run.subscription)
  | fetch {plan : String} :
      StepCall run (.awaitingInstallPlan plan) (.getInstallPlan ⟨run.subscription.ns, plan⟩)
  | write {plan : String} {written : InstallPlan} :
      StepCall run (.awaitingInstallPlan plan) (.updateInstallPlan run.subscription.ns written)
  | version (waits : run.waitForCompletion = true) :
      StepCall run .installPlanApproved (.getSubscription run.subscription)
  | completion {version : ObjectKey} :
      StepCall run (.awaitingCompletion version) (.getServiceVersion version)

variable {s t : InstallState} {e : Event Platform}

lemma GroupCalls.stepCall {request : InstallRequest} (asked : run.request = some request)
    (hg : GroupCalls (groupKey request) log) (he : e ∈ log) :
    ∃ call, StepCall run .start call ∧ e.Asks call := by
  cases hg with
  | lookup present => exact ⟨_, .lookup asked, _, _, List.mem_singleton.mp he⟩
  | creation =>
    rcases List.mem_pair.mp he with rfl | rfl
    · exact ⟨_, .lookup asked, _, _, rfl⟩
    · exact ⟨_, .group asked, _, _, rfl⟩

lemma Progress.stepCall (hp : Progress run s log t) (he : e ∈ log) :
    ∃ call, StepCall run s call ∧ e.Asks call := by
  cases hp with
  | created asked ensured =>
    rcases List.mem_append.mp he with he | he
    · exact ensured.calls.stepCall asked he
    · exact ⟨_, .subscription asked, _, _, List.mem_singleton.mp he⟩
  | resolved looks named => exact ⟨_, .plan, looks.forall_asks e he⟩
  | left skips approved => exact ⟨_, .fetch, _, _, List.mem_singleton.mp he⟩
  | approved needed =>
    rcases List.mem_pair.mp he with rfl | rfl
    · exact ⟨_, .fetch, _, _, rfl⟩
    · exact ⟨_, .write, _, _, rfl⟩
  | unawaited ends => cases he
  | installed waits looks named => exact ⟨_, .version waits, looks.forall_asks e he⟩
  | completed looks succeeded => exact ⟨_, .completion, looks.forall_asks e he⟩

lemma Breakdown.stepCall {error : Error} {finish : Duration}
    (hb : Breakdown poll run s log error finish) (he : e ∈ log) :
    ∃ call, StepCall run s call ∧ e.Asks call := by
  cases hb with
  | unasked unasked => cases he
  | group asked refused => exact refused.calls.stepCall asked he
  | creation asked ensured =>
    rcases List.mem_append.mp he with he | he
    · exact ensured.calls.stepCall asked he
    · exact ⟨_, .subscription asked, _, _, List.mem_singleton.mp he⟩
  | plan failure => exact ⟨_, .plan, failure.forall_asks e he⟩
  | fetch => exact ⟨_, .fetch, _, _, List.mem_singleton.mp he⟩
  | write needed =>
    rcases List.mem_pair.mp he with rfl | rfl
    · exact ⟨_, .fetch, _, _, rfl⟩
    · exact ⟨_, .write, _, _, rfl⟩
  | version waits failure => exact ⟨_, .version waits, failure.forall_asks e he⟩
  | completion failure => exact ⟨_, .completion, failure.forall_asks e he⟩

lemma Unended.stepCall (hu : Unended run s log) (he : e ∈ log) :
    ∃ call, StepCall run s call ∧ e.Asks call := by
  cases hu with
  | plan unended => exact ⟨_, .plan, unended.forall_asks e he⟩
  | version waits unended => exact ⟨_, .version waits, unended.forall_asks e he⟩
  | completion unended => exact ⟨_, .completion, unended.forall_asks e he⟩

/-- However a step goes, it makes only the calls of its state. -/
lemma Stepped.stepCall {o : Outcome σ Error InstallState} (hs : Stepped poll run s log o)
    (he : e ∈ log) : ∃ call, StepCall run s call ∧ e.Asks call := by
  cases hs with
  | onward progress => exact progress.stepCall he
  | broken breakdown => exact breakdown.stepCall he
  | unended unended => exact unended.stepCall he

end Provisioner.Install
