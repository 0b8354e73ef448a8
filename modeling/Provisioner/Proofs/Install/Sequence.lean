import Provisioner.Proofs.Install.Course
import Mathlib.Data.List.Infix
/-!
# The sequence of calls of an install

Whatever the cluster answers, the calls of an install are the first calls of one fixed sequence:
the operator group, the subscription, the plan, its approval, and the service version.  `Sequence`
says what the whole sequence is from each state on, where a later call depends on an earlier answer
included.  An install that is cut short, by an error or by a deadline, has made the first of these
calls and no other; one that succeeds has made them all.
-/

namespace Provisioner.Install

open Program

variable {σ : Type} {h : Handler Platform σ} {poll : Poll} {run : InstallRun} {s t : InstallState}
  {now finish : Duration} {x : σ} {log rest : List (Event Platform)}

/-- The installs that are carried out, and where each of them begins. -/
inductive Begins : InstallRun → InstallState → Prop
  | install (request : InstallRequest) : Begins (.install request) .start
  | upgrade (subscription : ObjectKey) : Begins (.upgrade subscription) .subscriptionCreated
  | bootstrap (subscription : ObjectKey) : Begins (.bootstrap subscription) .subscriptionCreated
  | automatic (subscription : ObjectKey) : Begins (.bootstrap subscription) .installPlanApproved

/-- The calls of an install from a state to its end, with their answers. -/
inductive Sequence (run : InstallRun) : InstallState → List (Event Platform) → Prop
  | start {request : InstallRequest} {group rest : List (Event Platform)}
      {reply : Except Error Subscription} {time : Duration} (asked : run.request = some request)
      (ensures : GroupCalls (groupKey request) group)
      (next : Sequence run .subscriptionCreated rest) :
      Sequence run .start
        (group ++ .ofCall (.createSubscription request.subscription) reply time :: rest)
  | subscriptionCreated {looks rest : List (Event Platform)} {found : Subscription} {plan : String}
      {time : Duration} (looking : ∀ e ∈ looks, e.Asks (.getSubscription run.subscription))
      (named : found.installPlanName? = some plan) (nonempty : plan ≠ "")
      (next : Sequence run (.awaitingInstallPlan plan) rest) :
      Sequence run .subscriptionCreated
        (looks ++ .ofCall (.getSubscription run.subscription) (.ok (some found)) time :: rest)
  | awaitingInstallPlan {plan : String} {writes rest : List (Event Platform)}
      {reply : Except Error InstallPlan} {time : Duration} (once : writes.length ≤ 1)
      (writing : ∀ e ∈ writes, ∃ written, e.Asks (.updateInstallPlan run.subscription.ns written))
      (next : Sequence run .installPlanApproved rest) :
      Sequence run (.awaitingInstallPlan plan)
        (.ofCall (.getInstallPlan ⟨run.subscription.ns, plan⟩) reply time :: writes ++ rest)
  | unawaited (ends : run.waitForCompletion = false) : Sequence run .installPlanApproved []
  | installPlanApproved {looks rest : List (Event Platform)} {found : Subscription}
      {version : String} {time : Duration} (waits : run.waitForCompletion = true)
      (looking : ∀ e ∈ looks, e.Asks (.getSubscription run.subscription))
      (named : found.installedVersion? = some version) (nonempty : version ≠ "")
      (next : Sequence run (.awaitingCompletion ⟨run.subscription.ns, version⟩) rest) :
      Sequence run .installPlanApproved
        (looks ++ .ofCall (.getSubscription run.subscription) (.ok (some found)) time :: rest)
  | awaitingCompletion {version : ObjectKey} {looks : List (Event Platform)}
      (looking : ∀ e ∈ looks, e.Asks (.getServiceVersion version)) (looked : looks ≠ []) :
      Sequence run (.awaitingCompletion version) looks
  | succeeded : Sequence run .succeeded []

/-! ## What can be completed -/

lemma Begins.ready (hb : Begins run s) : Ready run s := by
  cases hb with
  | install request => exact ⟨by simp, fun _ => ⟨request, rfl⟩⟩
  | _ => exact ⟨by simp, by simp⟩

/-- The calls are the first ones of a sequence from the state. -/
def Completable (run : InstallRun) (s : InstallState) (log : List (Event Platform)) : Prop :=
  ∃ rest, Sequence run s (log ++ rest)

variable {looks : List (Event Platform)}

lemma completable_awaitingCompletion {version : ObjectKey}
    (looking : ∀ e ∈ looks, e.Asks (.getServiceVersion version)) :
    Completable run (.awaitingCompletion version) looks := by
  refine ⟨[.ofCall (.getServiceVersion version) (.ok none) 0], .awaitingCompletion ?_ (by simp)⟩
  intro e he
  rcases List.mem_append.mp he with he | he
  · exact looking e he
  · exact ⟨_, _, List.mem_singleton.mp he⟩

/-- After any looks at the subscription there can be the one that names a service version. -/
lemma completable_version (waits : run.waitForCompletion = true)
    (looking : ∀ e ∈ looks, e.Asks (.getSubscription run.subscription)) :
    Completable run .installPlanApproved looks := by
  obtain ⟨rest, hrest⟩ :
      Completable run (.awaitingCompletion ⟨run.subscription.ns, "version"⟩) [] :=
    completable_awaitingCompletion (by simp)
  have named : (naming "plan" "version").installedVersion? = some "version" := by decide
  exact ⟨.ofCall (.getSubscription run.subscription)
      (.ok (some (naming "plan" "version"))) 0 :: rest,
    .installPlanApproved waits looking named (by decide) hrest⟩

lemma completable_installPlanApproved (run : InstallRun) :
    Completable run .installPlanApproved [] := by
  by_cases waits : run.waitForCompletion = true
  · exact completable_version waits (by simp)
  · exact ⟨[], .unawaited (by simpa using waits)⟩

/-- After the plan is looked up, it can be written once. -/
lemma completable_awaitingInstallPlan {plan : String} {writes : List (Event Platform)}
    {reply : Except Error InstallPlan} {time : Duration} (once : writes.length ≤ 1)
    (writing : ∀ e ∈ writes, ∃ written, e.Asks (.updateInstallPlan run.subscription.ns written)) :
    Completable run (.awaitingInstallPlan plan)
      (.ofCall (.getInstallPlan ⟨run.subscription.ns, plan⟩) reply time :: writes) := by
  obtain ⟨rest, hrest⟩ := completable_installPlanApproved run
  exact ⟨rest, .awaitingInstallPlan once writing hrest⟩

/-- After any looks at the subscription there can be the one that names a plan. -/
lemma completable_subscriptionCreated
    (looking : ∀ e ∈ looks, e.Asks (.getSubscription run.subscription)) :
    Completable run .subscriptionCreated looks := by
  obtain ⟨rest, hrest⟩ : Completable run (.awaitingInstallPlan "plan")
      [.ofCall (.getInstallPlan ⟨run.subscription.ns, "plan"⟩) (.error (.monitoring "")) 0] :=
    completable_awaitingInstallPlan (by simp) (by simp)
  have named : (naming "plan" "version").installPlanName? = some "plan" := by decide
  exact ⟨.ofCall (.getSubscription run.subscription) (.ok (some (naming "plan" "version"))) 0 :: _,
    .subscriptionCreated looking named (by decide) hrest⟩

lemma completable_start {request : InstallRequest} {group : List (Event Platform)}
    (asked : run.request = some request) (ensures : GroupCalls (groupKey request) group)
    (reply : Except Error Subscription) (time : Duration) :
    Completable run .start
      (group ++ [.ofCall (.createSubscription request.subscription) reply time]) := by
  obtain ⟨rest, hrest⟩ : Completable run .subscriptionCreated [] :=
    completable_subscriptionCreated (by simp)
  exact ⟨rest, by simpa using Sequence.start asked ensures hrest⟩

/-! ## The steps make the calls of the sequence -/

/-- A step that succeeds makes the calls that the sequence has between its two states. -/
lemma Progress.sequence (hp : Progress run s log t) (hs : Sequence run t rest) :
    Sequence run s (log ++ rest) := by
  cases hp with
  | created asked ensured => simpa using Sequence.start asked ensured.calls hs
  | resolved looks named =>
    obtain ⟨before, found, start, rfl, looking, hname⟩ := looks.exists_naming named
    simpa using Sequence.subscriptionCreated looking hname (ne_empty_of_installPlanName? hname) hs
  | left skips approved =>
    exact .awaitingInstallPlan (by simp) (by simp) hs
  | approved needed =>
    exact .awaitingInstallPlan (by simp) (by simp [Event.Asks]) hs
  | unawaited ends =>
    cases hs
    exact .unawaited ends
  | installed waits looks named =>
    obtain ⟨before, found, start, rfl, looking, hname⟩ := looks.exists_naming named
    simpa using
      Sequence.installPlanApproved waits looking hname (ne_empty_of_installedVersion? hname) hs
  | completed looks succeeded =>
    cases hs
    simpa using Sequence.awaitingCompletion looks.forall_asks looks.ne_nil

/-- A step that fails makes the first calls of the sequence. -/
lemma Breakdown.completable {e : Error} (hb : Breakdown poll run s log e finish)
    (hs : Ready run s) : Completable run s log := by
  cases hb with
  | unasked unasked =>
    obtain ⟨request, asked⟩ := hs.asked rfl
    rw [unasked] at asked
    cases asked
  | group asked refused =>
    obtain ⟨rest, hrest⟩ := completable_start asked refused.calls (.error e) 0
    exact ⟨_, by simpa using hrest⟩
  | creation asked ensured => exact completable_start asked ensured.calls _ _
  | plan failure => exact completable_subscriptionCreated failure.forall_asks
  | fetch => exact completable_awaitingInstallPlan (by simp) (by simp)
  | write needed => exact completable_awaitingInstallPlan (by simp) (by simp [Event.Asks])
  | version waits failure => exact completable_version waits failure.forall_asks
  | completion failure => exact completable_awaitingCompletion failure.forall_asks

/-- So does a step that is not followed to its end. -/
lemma Unended.completable (hu : Unended run s log) : Completable run s log := by
  cases hu with
  | plan unended => exact completable_subscriptionCreated unended.forall_asks
  | version waits unended => exact completable_version waits unended.forall_asks
  | completion unended => exact completable_awaitingCompletion unended.forall_asks

/-! ## Nothing is called after an error -/

lemma GroupEnsured.error?_eq_none {key : ObjectKey} (hg : GroupEnsured key log) :
    ∀ e ∈ log, e.error? = none := by
  cases hg <;> simp [Event.error?]

lemma Progress.error?_eq_none (hp : Progress run s log t) : ∀ e ∈ log, e.error? = none := by
  cases hp with
  | created asked ensured =>
    intro e he
    rcases List.mem_append.mp he with he | he
    · exact ensured.error?_eq_none e he
    · rw [List.mem_singleton.mp he, Event.error?_ok]
  | resolved looks _ => exact looks.error?_ok
  | left _ _ => simp [Event.error?]
  | approved _ => simp [Event.error?]
  | unawaited _ => simp
  | installed _ looks _ => exact looks.error?_ok
  | completed looks _ => exact looks.error?_ok

lemma Breakdown.error?_dropLast {e : Error} (hb : Breakdown poll run s log e finish) :
    ∀ e ∈ log.dropLast, e.error? = none := by
  cases hb with
  | unasked _ => simp
  | group asked refused => cases refused <;> simp [Event.error?]
  | creation asked ensured =>
    rw [List.dropLast_concat]
    exact ensured.error?_eq_none
  | plan failure => exact failure.error?_dropLast
  | fetch => simp
  | write _ => simp [Event.error?]
  | version _ failure => exact failure.error?_dropLast
  | completion failure => exact failure.error?_dropLast

lemma Unended.error?_eq_none (hu : Unended run s log) : ∀ e ∈ log, e.error? = none := by
  cases hu with
  | plan unended => exact unended.error?_eq_none
  | version _ unended => exact unended.error?_eq_none
  | completion unended => exact unended.error?_eq_none

/-! ## Whole installs -/

variable {o : Outcome σ Error Unit}

/-- An install makes the first calls of the sequence, wherever it ends. -/
lemma Course.completable (hc : Course h poll run s now x log o) (hs : Ready run s) :
    Completable run s log := by
  induction hc with
  | succeeded => exact ⟨[], .succeeded⟩
  | failed => exact absurd rfl hs.not_failed
  | onward hns made rest ih =>
    cases runs_step hns made with
    | onward progress =>
      -- what is missing after the rest is all that is missing
      obtain ⟨more, hmore⟩ := ih progress.ready
      exact ⟨more, by simpa using progress.sequence hmore⟩
  | broken hns made =>
    cases runs_step hns made with
    | broken breakdown => exact breakdown.completable hs
  | unended hns made =>
    cases runs_step hns made with
    | unended unended => exact unended.completable

/-- An install that succeeds makes all of them. -/
lemma Course.sequence (hc : Course h poll run s now x log o) (ho : o.result = some (.ok ())) :
    Sequence run s log := by
  induction hc with
  | succeeded => exact .succeeded
  | onward hns made rest ih =>
    cases runs_step hns made with
    | onward progress => exact progress.sequence (ih ho)
  | _ => cases ho

/-- The first error that is answered ends the install. -/
lemma Course.error?_dropLast (hc : Course h poll run s now x log o) :
    ∀ e ∈ log.dropLast, e.error? = none := by
  induction hc with
  | succeeded => simp
  | failed => simp
  | @onward s t now mid x y l₁ l₂ o hns made rest ih =>
    cases runs_step hns made with
    | onward progress =>
      intro e he
      by_cases hrest : l₂ = []
      · subst hrest
        rw [List.append_nil] at he
        exact progress.error?_eq_none e (List.mem_of_mem_dropLast he)
      · rw [List.dropLast_append_of_ne_nil hrest] at he
        rcases List.mem_append.mp he with he | he
        · exact progress.error?_eq_none e he
        · exact ih e he
  | broken hns made =>
    cases runs_step hns made with
    | broken breakdown => exact breakdown.error?_dropLast
  | unended hns made =>
    cases runs_step hns made with
    | unended unended =>
      exact fun e he => unended.error?_eq_none e (List.mem_of_mem_dropLast he)

/-- **The calls of an install.**  Whatever the cluster answers, the calls of an install are the
first calls of the sequence from the state that it begins in; none follows one that was answered
an error, and an install that succeeds has made them all. -/
theorem carryOut_calls (poll : Poll) (hb : Begins run s) (h : Handler Platform σ) (now : Duration)
    (x : σ) :
    (∃ full, Sequence run s full ∧ trace h (carryOut poll run s) now x <+: full) ∧
      (∀ e ∈ (trace h (carryOut poll run s) now x).dropLast, e.error? = none) ∧
      ((Program.run h (carryOut poll run s) now x).result = some (.ok ()) →
        Sequence run s (trace h (carryOut poll run s) now x)) := by
  have hc := runs_carryOut (runs_self h (carryOut poll run s) now x)
  refine ⟨?_, hc.error?_dropLast, hc.sequence⟩
  obtain ⟨rest, hfull⟩ := hc.completable hb.ready
  exact ⟨_, hfull, List.prefix_append _ rest⟩

/-- An install into a cluster that does as it is asked makes the eight calls of its sequence. -/
theorem carryOut_calls_obliging :
    Begins (.install exampleRequest) .start ∧
      (trace (answering obliging) (carryOut .standard (.install exampleRequest) .start) 0 ()).length
        = 8 ∧
      Sequence (.install exampleRequest) .start
        (trace (answering obliging) (carryOut .standard (.install exampleRequest) .start) 0 ()) := by
  obtain ⟨-, -, hcomplete⟩ :=
    carryOut_calls .standard (.install exampleRequest) (answering obliging) 0 ()
  exact ⟨.install _, by decide +kernel, hcomplete (by decide +kernel)⟩

end Provisioner.Install
