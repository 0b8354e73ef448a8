import Provisioner.Proofs.Install.Course
/-!
# Evidence of success

An install that succeeds has been told by the cluster that everything was done.  Its calls are
those of `Installed` or `Upgraded`, all of them answered well, and they end with the service version
that has succeeded where that is waited for.
-/

namespace Provisioner.Install

open Program

variable {σ : Type} {h : Handler Platform σ} {poll : Poll} {run : InstallRun} {s : InstallState}
  {now finish : Duration} {x : σ} {log : List (Event Platform)} {o : Outcome σ Error Unit}

/-! ## The calls of a success -/

/-- The subscription names a service version, and that is found to be installed in the end. -/
inductive Completed (subscription : ObjectKey) : List (Event Platform) → Prop
  | intro {looks more : List (Event Platform)} {found : Subscription} {version : String}
      {reported : ServiceVersion} {time later : Duration}
      (looking : ∀ e ∈ looks, e.Asks (.getSubscription subscription))
      (named : found.installedVersion? = some version) (nonempty : version ≠ "")
      (waiting : ∀ e ∈ more, e.Asks (.getServiceVersion ⟨subscription.ns, version⟩))
      (succeeded : reported.phase = "Succeeded") :
      Completed subscription
        (looks ++ .ofCall (.getSubscription subscription) (.ok (some found)) time :: more ++
          [.ofCall (.getServiceVersion ⟨subscription.ns, version⟩) (.ok (some reported)) later])

/-- The subscription names a plan, and that is fetched before the rest. -/
inductive Fetched (subscription : ObjectKey) (plan : InstallPlan) (rest : List (Event Platform)) :
    List (Event Platform) → Prop
  | intro {looks : List (Event Platform)} {found : Subscription} {name : String}
      {time later : Duration} (looking : ∀ e ∈ looks, e.Asks (.getSubscription subscription))
      (named : found.installPlanName? = some name) (nonempty : name ≠ "") :
      Fetched subscription plan rest
        (looks ++ .ofCall (.getSubscription subscription) (.ok (some found)) time ::
          .ofCall (.getInstallPlan ⟨subscription.ns, name⟩) (.ok plan) later :: rest)

/-- The plan is written, approved and otherwise as it was. -/
def Written (subscription : ObjectKey) (plan : InstallPlan) (e : Event Platform) : Prop :=
  ∃ written time,
    e = .ofCall (.updateInstallPlan subscription.ns
      { plan with spec := { plan.spec with approved := true } }) (.ok written) time

/-- The calls of a new install that succeeds. -/
inductive Installed (request : InstallRequest) : List (Event Platform) → Prop
  | intro {group resolving completing : List (Event Platform)} {created : Subscription}
      {plan : InstallPlan} {approval : Event Platform} {time : Duration}
      (ensured : GroupEnsured (groupKey request) group)
      (fetched : Fetched request.key plan (approval :: completing) resolving)
      (written : Written request.key plan approval)
      (completed : if request.waitForCompletion then Completed request.key completing
        else completing = []) :
      Installed request
        (group ++ .ofCall (.createSubscription request.subscription) (.ok created) time ::
          resolving)

/-- The calls of an upgrade that succeeds. -/
inductive Upgraded (subscription : ObjectKey) : List (Event Platform) → Prop
  | left {log : List (Event Platform)} {plan : InstallPlan} (approved : plan.spec.approved = true)
      (fetched : Fetched subscription plan [] log) : Upgraded subscription log
  | written {log : List (Event Platform)} {plan : InstallPlan} {approval : Event Platform}
      (fetched : Fetched subscription plan [approval] log)
      (written : Written subscription plan approval) : Upgraded subscription log

/-! ## An install that succeeds -/

/-- From the wait for a service version on, success means that it has succeeded. -/
lemma Course.reported {version : ObjectKey}
    (hc : Course h poll run (.awaitingCompletion version) now x log o)
    (ho : o.result = some (.ok ())) :
    ∃ more reported time,
      log = more ++ [.ofCall (.getServiceVersion version) (.ok (some reported)) time] ∧
      (∀ e ∈ more, e.Asks (.getServiceVersion version)) ∧ reported.phase = "Succeeded" := by
  obtain ⟨t, mid, y, l₁, l₂, progress, rest, rfl⟩ := hc.progress rfl ho
  cases progress with
  | @completed _ _ _ reported looks succeeded =>
    obtain ⟨more, time, rfl, waiting⟩ := looks.exists_last
    rw [rest.eq_nil rfl, List.append_nil]
    have hphase : reported.phase = "Succeeded" := by
      simpa [ServiceVersion.isSucceeded] using succeeded
    exact ⟨more, reported, time, rfl, waiting, hphase⟩

/-- After the approval, success means that there was nothing to wait for or that it came. -/
lemma Course.completed (hc : Course h poll run .installPlanApproved now x log o)
    (ho : o.result = some (.ok ())) :
    if run.waitForCompletion then Completed run.subscription log else log = [] := by
  obtain ⟨t, mid, y, l₁, l₂, progress, rest, rfl⟩ := hc.progress rfl ho
  cases progress with
  | unawaited ends => simp [ends, rest.eq_nil rfl]
  | installed waits looks named =>
    obtain ⟨before, found, time, rfl, looking, hname⟩ := looks.exists_naming named
    obtain ⟨more, reported, later, rfl, waiting, succeeded⟩ := rest.reported ho
    simpa [waits] using
      Completed.intro looking hname (ne_empty_of_installedVersion? hname) waiting succeeded

/-- Success from the wait for a plan on: the plan is fetched, and written where that is needed. -/
lemma Course.fetched (hc : Course h poll run .subscriptionCreated now x log o)
    (ho : o.result = some (.ok ())) :
    ∃ plan rest completing, Fetched run.subscription plan rest log ∧
      (if run.waitForCompletion then Completed run.subscription completing
        else completing = []) ∧
      ((run.skipsApproved = true ∧ plan.spec.approved = true ∧ rest = completing) ∨
        ∃ approval, Written run.subscription plan approval ∧ rest = approval :: completing) := by
  obtain ⟨_, mid, y, l₁, l₂, progress, hrest, rfl⟩ := hc.progress rfl ho
  cases progress with
  | resolved looks named =>
    obtain ⟨before, found, time, rfl, looking, hname⟩ := looks.exists_naming named
    have nonempty := ne_empty_of_installPlanName? hname
    obtain ⟨_, later, z, l₃, completing, progress, hend, rfl⟩ := hrest.progress rfl ho
    have completed : if run.waitForCompletion then Completed run.subscription completing
        else completing = [] := by
      cases progress <;> exact hend.completed ho
    cases progress with
    | @left _ fetched start skips approved =>
      exact ⟨fetched, completing, completing, by simpa using .intro looking hname nonempty,
        completed, .inl ⟨skips, approved, rfl⟩⟩
    | @approved _ fetched written start last needed =>
      exact ⟨fetched, _, completing, by simpa using .intro looking hname nonempty, completed,
        .inr ⟨_, ⟨written, last, rfl⟩, rfl⟩⟩

/-- A new install that succeeds has made all its calls. -/
lemma Course.installed {request : InstallRequest}
    (hc : Course h poll (.install request) .start now x log o) (ho : o.result = some (.ok ())) :
    Installed request log := by
  obtain ⟨t, mid, y, l₁, l₂, progress, hrest, rfl⟩ := hc.progress rfl ho
  cases progress with
  | created asked ensured =>
    cases asked
    obtain ⟨plan, rest, completing, fetched, completed, hwritten⟩ := hrest.fetched ho
    rcases hwritten with ⟨skips, -, -⟩ | ⟨approval, written, rfl⟩
    · -- a new install leaves no plan alone
      cases skips
    · simpa using Installed.intro ensured fetched written completed

/-- An upgrade that succeeds has found its plan approved or has written it. -/
lemma Course.upgraded {subscription : ObjectKey}
    (hc : Course h poll (.upgrade subscription) .subscriptionCreated now x log o)
    (ho : o.result = some (.ok ())) : Upgraded subscription log := by
  obtain ⟨plan, rest, completing, fetched, rfl, hwritten⟩ := hc.fetched ho
  rcases hwritten with ⟨-, approved, rfl⟩ | ⟨approval, written, rfl⟩
  · exact .left approved fetched
  · exact .written fetched written

end Provisioner.Install
