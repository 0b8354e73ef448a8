import Provisioner.Proofs.Install.Course
/-!
# Causes of failure

An install that fails ends with a cause: an error that was answered, a wait that reached its
deadline, or a service version that reported to have failed.  Its error names the state that it was
in and ends with the text of the cause.
-/

namespace Provisioner.Install

open Program

variable {σ : Type} {h : Handler Platform σ} {poll : Poll} {run : InstallRun} {s : InstallState}
  {now finish : Duration} {x : σ} {log before : List (Event Platform)} {e : Error}

/-! ## Causes of failure -/

/-- A wait was begun and left open by every answer, and its deadline is reached. -/
inductive Overdue {α : Type} (poll : Poll) (finish : Duration) (call : Call)
    (read : call.Answer → Except Error (Option α)) : List (Event Platform) → Prop
  | intro {begun : Duration} {wait : List (Event Platform)} {answer : call.Answer}
      (looks : Looks call read begun wait (.ok answer)) (undecided : read answer = .ok none)
      (deadline : poll.timeout ≤ finish - begun) : Overdue poll finish call read wait

/-- Why an install fails that ends at `finish` with these calls, and how that is told. -/
inductive Cause (poll : Poll) (run : InstallRun) (finish : Duration) :
    List (Event Platform) → String → Prop
  | answered {before : List (Event Platform)} {call : Call} {e : Error} {start : Duration} :
      Cause poll run finish (before ++ [.ofCall call (.error e) start]) e.message
  | plan {before wait : List (Event Platform)}
      (overdue : Overdue poll finish (.getSubscription run.subscription) namedPlan wait) :
      Cause poll run finish (before ++ wait)
        (Error.timeout (planWait run.subscription) poll.timeout).message
  | version {before wait : List (Event Platform)}
      (overdue : Overdue poll finish (.getSubscription run.subscription) namedVersion wait) :
      Cause poll run finish (before ++ wait)
        (Error.timeout (versionWait run.subscription) poll.timeout).message
  | completion {version : ObjectKey} {before wait : List (Event Platform)}
      (overdue : Overdue poll finish (.getServiceVersion version) (reportedPhase version) wait) :
      Cause poll run finish (before ++ wait)
        (Error.timeout (completionWait version) poll.timeout).message
  | failed {version : ObjectKey} {found : ServiceVersion} {before : List (Event Platform)}
      {start : Duration} (failed : found.phase = "Failed") :
      Cause poll run finish
        (before ++ [.ofCall (.getServiceVersion version) (.ok (some found)) start])
        found.failureDetail

/-- The service version that an event reports to have failed. -/
def failedVersion? : Event Platform → Option ObjectKey
  | ⟨.cluster (.getServiceVersion version), .ok (some found), _⟩ =>
    if found.isFailed then some version else none
  | _ => none

/-- The operator that a failure is reported for: that of the subscription, unless the last call
found a service version that has failed. -/
def culprit (run : InstallRun) (log : List (Event Platform)) : String :=
  ((log.getLast?.bind failedVersion?).map (·.name)).getD run.subscription.name

/-- No answer is the failure of an install. -/
def Plain (log : List (Event Platform)) : Prop :=
  ∀ event ∈ log, ∀ e, event.error? = some e → e.isInstall = false

/-- The error of a step says what caused it: the calls of the step end with a cause, and once the
error is that of an install, it names the culprit and the state and ends with the cause. -/
def Explained (poll : Poll) (run : InstallRun) (s : InstallState)
    (before log : List (Event Platform)) (e : Error) (finish : Duration) : Prop :=
  ∃ text, Cause poll run finish (before ++ log) text ∧
    (Plain log → ∃ lead, inPhase run s e =
      .install (culprit run (before ++ log)) s.name (lead ++ text))

/-! ## Where the causes come from -/

lemma culprit_concat (run : InstallRun) (before : List (Event Platform)) (event : Event Platform) :
    culprit run (before ++ [event]) =
      ((failedVersion? event).map (·.name)).getD run.subscription.name := by
  simp [culprit]

/-- A service version that is waited for has not failed. -/
lemma failedVersion?_of_undecided {version : ObjectKey} {answer : Option ServiceVersion}
    {start : Duration} (undecided : reportedPhase version answer = .ok none) :
    failedVersion? (.ofCall (.getServiceVersion version) (.ok answer) start) = none := by
  cases answer with
  | none => rfl
  | some found =>
    by_cases hfailed : found.isFailed = true
    · simp [reportedPhase, hfailed] at undecided
    · simp [failedVersion?, hfailed]

lemma Overdue.exists_last {α : Type} {call : Call}
    {read : call.Answer → Except Error (Option α)} (hw : Overdue poll finish call read log) :
    ∃ earlier answer start, log = earlier ++ [.ofCall call (.ok answer) start] ∧
      read answer = .ok none := by
  cases hw with
  | intro looks undecided deadline =>
    obtain ⟨earlier, start, rfl, -⟩ := looks.eq_append
    exact ⟨earlier, _, start, rfl, undecided⟩

/-- A failure that is not yet that of an install becomes one of the state it happened in. -/
lemma inPhase_of_plain (he : e.isInstall = false) :
    inPhase run s e = .install run.subscription.name s.name e.message := by
  simp [inPhase, he]

/-- The failure to get a plan ends with what was answered. -/
lemma exists_fetchError_message (key : ObjectKey) (answer : Error) :
    ∃ lead, (fetchError key answer).message = lead ++ answer.message := by
  have hmessage : (fetchError key answer).message =
      "internal error [" ++ "approve_install_plan" ++ "]: " ++
        ("cannot get install plan " ++ key.text ++ ": " ++ answer.message) := rfl
  exact ⟨_, hmessage.trans (String.append_assoc ..).symm⟩

/-- An error that was answered explains the failure that quotes it. -/
lemma explained_answered (earlier : List (Event Platform)) {call : Call} {answer : Error}
    {start : Duration} (quoted : answer.isInstall = false → ∃ lead,
      inPhase run s e = .install run.subscription.name s.name (lead ++ answer.message)) :
    Explained poll run s before (earlier ++ [.ofCall call (.error answer) start]) e finish := by
  have hculprit : culprit run (before ++ earlier ++ [.ofCall call (.error answer) start]) =
      run.subscription.name := by
    rw [culprit_concat]
    cases call <;> rfl
  refine ⟨answer.message, ?_, fun hplain => ?_⟩
  · rw [← List.append_assoc]
    exact .answered
  · rw [← List.append_assoc, hculprit]
    exact quoted (hplain (.ofCall call (.error answer) start) (by simp) answer rfl)

/-- So it does when it is passed on as it is. -/
lemma explained_passed (earlier : List (Event Platform)) {call : Call} {start : Duration} :
    Explained poll run s before (earlier ++ [.ofCall call (.error e) start]) e finish :=
  explained_answered earlier fun hplain =>
    ⟨"", by rw [inPhase_of_plain hplain, String.empty_append]⟩

/-- A deadline of a wait for the subscription to name something explains the failure. -/
lemma explained_overdue_subscription {read : Option Subscription → Except Error (Option String)}
    {description : String}
    (overdue : Overdue poll finish (.getSubscription run.subscription) read log)
    (cause : Cause poll run finish (before ++ log) (Error.timeout description poll.timeout).message)
    (quoted : ∃ lead, inPhase run s e = .install run.subscription.name s.name
      (lead ++ (Error.timeout description poll.timeout).message)) :
    Explained poll run s before log e finish := by
  obtain ⟨earlier, answer, start, rfl, -⟩ := overdue.exists_last
  refine ⟨_, cause, fun _ => ?_⟩
  rw [← List.append_assoc, culprit_concat]
  exact quoted

lemma explained_plan
    (failure : WaitFailed poll (planWait run.subscription) (.getSubscription run.subscription)
      namedPlan now now log e finish) :
    Explained poll run .subscriptionCreated before log (planError run.subscription e) finish := by
  cases failure with
  | answered looks =>
    obtain ⟨earlier, start, rfl, -⟩ := looks.eq_append
    refine explained_answered earlier fun hplain => ?_
    by_cases htimeout : e.isTimeout = true
    · exact ⟨"cannot resolve install plan: ",
        by simp [planError, htimeout, inPhase, Error.isInstall]⟩
    · exact ⟨"", by simp [planError, htimeout, inPhase_of_plain hplain]⟩
  | refused looks refusal => cases refusal
  | expired looks undecided deadline =>
    have overdue := Overdue.intro looks undecided deadline
    exact explained_overdue_subscription overdue (.plan overdue)
      ⟨"cannot resolve install plan: ", rfl⟩

lemma explained_version
    (failure : WaitFailed poll (versionWait run.subscription) (.getSubscription run.subscription)
      namedVersion now now log e finish) :
    Explained poll run .installPlanApproved before log e finish := by
  cases failure with
  | answered looks =>
    obtain ⟨earlier, start, rfl, -⟩ := looks.eq_append
    exact explained_passed earlier
  | refused looks refusal => cases refusal
  | expired looks undecided deadline =>
    have overdue := Overdue.intro looks undecided deadline
    exact explained_overdue_subscription overdue (.version overdue)
      ⟨"", by rw [inPhase_of_plain rfl, String.empty_append]⟩

lemma explained_completion {version : ObjectKey}
    (failure : WaitFailed poll (completionWait version) (.getServiceVersion version)
      (reportedPhase version) now now log e finish) :
    Explained poll run (.awaitingCompletion version) before log e finish := by
  cases failure with
  | answered looks =>
    obtain ⟨earlier, start, rfl, -⟩ := looks.eq_append
    exact explained_passed earlier
  | refused looks refusal =>
    obtain ⟨earlier, start, rfl, -⟩ := looks.eq_append
    obtain ⟨found, rfl, hfailed, rfl⟩ := reportedPhase_eq_error refusal
    refine ⟨found.failureDetail, ?_, fun _ => ⟨"clusterserviceversion failed: ", ?_⟩⟩
    · rw [← List.append_assoc]
      exact .failed (by simpa [ServiceVersion.isFailed] using hfailed)
    · rw [← List.append_assoc, culprit_concat, failedVersion?, if_pos hfailed]
      rfl
  | expired looks undecided deadline =>
    have overdue := Overdue.intro looks undecided deadline
    refine ⟨_, .completion overdue, fun _ => ⟨"", ?_⟩⟩
    obtain ⟨earlier, answer, start, rfl, hanswer⟩ := overdue.exists_last
    rw [← List.append_assoc, culprit_concat, failedVersion?_of_undecided hanswer,
      inPhase_of_plain rfl, String.empty_append]
    rfl

/-- Every step that fails says what caused it. -/
lemma Breakdown.explained (hb : Breakdown poll run s log e finish) (hs : Ready run s)
    (hname : ∀ request, run.request = some request → request.name = run.subscription.name) :
    Explained poll run s before log e finish := by
  cases hb with
  | unasked unasked =>
    obtain ⟨request, asked⟩ := hs.asked rfl
    rw [unasked] at asked
    cases asked
  | group asked refused =>
    cases refused with
    | lookup e start => exact explained_passed []
    | creation e start later => exact explained_passed [_]
  | creation asked ensured =>
    -- this failure is put together where it happens, and for the name of the request
    refine explained_answered _ fun _ =>
      ⟨"cannot create a subscription to install the operator: ", ?_⟩
    rw [← hname _ asked]
    rfl
  | plan failure => exact explained_plan failure
  | fetch =>
    refine explained_answered [] fun _ => ?_
    rw [inPhase_of_plain rfl]
    obtain ⟨lead, hlead⟩ := exists_fetchError_message ⟨_, _⟩ _
    exact ⟨lead, by rw [hlead]⟩
  | write needed => exact explained_passed [_]
  | version waits failure => exact explained_version failure
  | completion failure => exact explained_completion failure

end Provisioner.Install
