import Provisioner.Proofs.Install.Approval
import Provisioner.Proofs.Install.Evidence
/-!
# The service version that an install ends with

An install that waits until the operator is installed looks at the subscription twice: first for
the plan, which is then approved, and then for the service version, which is watched until it has
succeeded.  `Concluded` says how the two go together in an install that succeeds.  Nothing compares
them: the service version is the one that the subscription names after the approval, whether the
plan lists it or not.
-/

namespace Provisioner

/-- The service version that an event looks at. -/
def Event.watched? : Event Platform → Option ObjectKey
  | ⟨.cluster (.getServiceVersion version), _, _⟩ => some version
  | _ => none

namespace Install

open Program

variable {σ : Type} {h : Handler Platform σ} {poll : Poll} {run : InstallRun} {s t : InstallState}
  {now : Duration} {x : σ} {log : List (Event Platform)} {o : Outcome σ Error Unit}

/-! ## How an install is concluded -/

/-- The calls of an install that succeeds after a wait.  The plan is fetched and written once at
most; from then on the subscription is looked at until it names a service version, and that is
looked at until it has succeeded. -/
inductive Concluded (subscription : ObjectKey) (fetched : InstallPlan) (found : Subscription)
    (version : String) : List (Event Platform) → Prop
  | intro {before approval looks watching : List (Event Platform)} {plan : String}
      {reported : ServiceVersion} {start later last : Duration}
      (resolving : ∀ e ∈ before, e.isPlanCall = false ∧ e.watched? = none)
      (approving : approval.length ≤ 1 ∧ ∀ e ∈ approval, e.writesPlan = true)
      (looking : ∀ e ∈ looks, e.Asks (.getSubscription subscription))
      (named : found.installedVersion? = some version)
      (waiting : ∀ e ∈ watching, e.Asks (.getServiceVersion ⟨subscription.ns, version⟩))
      (succeeded : reported.phase = "Succeeded") :
      Concluded subscription fetched found version
        (before ++ .ofCall (.getInstallPlan ⟨subscription.ns, plan⟩) (.ok fetched) start ::
          (approval ++ (looks ++ .ofCall (.getSubscription subscription) (.ok (some found)) later ::
            (watching ++ [.ofCall (.getServiceVersion ⟨subscription.ns, version⟩)
              (.ok (some reported)) last]))))

/-- Before an install knows its plan, it looks at neither plans nor service versions. -/
lemma StepCall.resolving {call : Call} {e : Event Platform} (hc : StepCall run t call)
    (he : e.Asks call) (ht : 4 ≤ t.rank) : e.isPlanCall = false ∧ e.watched? = none := by
  obtain ⟨reply, start, rfl⟩ := he
  cases hc with
  | lookup | group | subscription | plan => exact ⟨rfl, rfl⟩
  | fetch | write | version | completion => simp [InstallState.rank] at ht

/-- An install that succeeds comes by the approval of its plan, unless it begins after that. -/
lemma Course.resolving (hc : Course h poll run s now x log o) (hs : 3 ≤ s.rank)
    (ho : o.result = some (.ok ())) :
    ∃ before plan mid y rest, log = before ++ rest ∧
      Course h poll run (.awaitingInstallPlan plan) mid y rest o ∧
      ∀ e ∈ before, e.isPlanCall = false ∧ e.watched? = none := by
  induction hc with
  | succeeded => simp [InstallState.rank] at hs
  | failed => cases ho
  | @onward s t now mid x y l₁ l₂ o hns made rest ih =>
    by_cases hplan : ∃ plan, s = .awaitingInstallPlan plan
    · obtain ⟨plan, rfl⟩ := hplan
      exact ⟨[], plan, now, x, l₁ ++ l₂, rfl, .onward hns made rest, by simp⟩
    · -- one step closer to the plan
      have hstep := runs_step hns made
      have hrank : 4 ≤ s.rank := by
        cases s with
        | awaitingInstallPlan plan => exact absurd ⟨plan, rfl⟩ hplan
        | start | subscriptionCreated => decide
        | _ => simp [InstallState.rank] at hs
      have ht : 3 ≤ t.rank := by
        cases hstep with
        | onward progress => cases progress <;> simp [InstallState.rank] at hrank ⊢
      obtain ⟨before, plan, later, z, l₃, rfl, hcourse, hbefore⟩ := ih ht ho
      refine ⟨l₁ ++ before, plan, later, z, l₃, by simp, hcourse, ?_⟩
      intro e he
      rcases List.mem_append.mp he with he | he
      · obtain ⟨call, hcall, hasks⟩ := hstep.stepCall he
        exact hcall.resolving hasks hrank
      · exact hbefore e he
  | broken => cases ho
  | unended => cases ho

/-- From its plan on, an install that waits and succeeds makes the calls of a conclusion. -/
lemma Course.concluded_of_plan {plan : String} {before : List (Event Platform)}
    (hc : Course h poll run (.awaitingInstallPlan plan) now x log o)
    (waits : run.waitForCompletion = true) (ho : o.result = some (.ok ()))
    (hbefore : ∀ e ∈ before, e.isPlanCall = false ∧ e.watched? = none) :
    ∃ fetched found version, Concluded run.subscription fetched found version (before ++ log) := by
  obtain ⟨_, mid, y, l₁, l₂, progress, rest, rfl⟩ := hc.progress rfl ho
  have hcompleted : Completed run.subscription l₂ := by
    cases progress <;> simpa [waits] using rest.completed ho
  cases hcompleted with
  | @intro looks more found version reported later last looking named nonempty waiting succeeded =>
    cases progress with
    | @left _ fetched start skips approved =>
      have hconcluded : Concluded run.subscription fetched found version
          (before ++ .ofCall (.getInstallPlan ⟨run.subscription.ns, plan⟩) (.ok fetched) start ::
            ([] ++ (looks ++ .ofCall (.getSubscription run.subscription) (.ok (some found)) later ::
              (more ++ [.ofCall (.getServiceVersion ⟨run.subscription.ns, version⟩)
                (.ok (some reported)) last])))) :=
        .intro hbefore ⟨by simp, by simp⟩ looking named waiting succeeded
      exact ⟨fetched, found, version, by simpa using hconcluded⟩
    | @approved _ fetched written start writing needed =>
      have hconcluded : Concluded run.subscription fetched found version
          (before ++ .ofCall (.getInstallPlan ⟨run.subscription.ns, plan⟩) (.ok fetched) start ::
            ([.ofCall (.updateInstallPlan run.subscription.ns fetched.approve) (.ok written)
                writing] ++
              (looks ++ .ofCall (.getSubscription run.subscription) (.ok (some found)) later ::
                (more ++ [.ofCall (.getServiceVersion ⟨run.subscription.ns, version⟩)
                  (.ok (some reported)) last])))) :=
        .intro hbefore ⟨by simp, by simp [Event.writesPlan]⟩ looking named waiting succeeded
      exact ⟨fetched, found, version, by simpa using hconcluded⟩

lemma Course.concluded (hc : Course h poll run s now x log o) (hs : 3 ≤ s.rank)
    (waits : run.waitForCompletion = true) (ho : o.result = some (.ok ())) :
    ∃ fetched found version, Concluded run.subscription fetched found version log := by
  obtain ⟨before, plan, mid, y, rest, rfl, hcourse, hbefore⟩ := hc.resolving hs ho
  exact hcourse.concluded_of_plan waits ho hbefore

variable {subscription : ObjectKey} {fetched : InstallPlan} {found : Subscription}
  {version : String}

/-- The plan that is fetched is the only one. -/
lemma Concluded.eq_fetched (hc : Concluded subscription fetched found version log)
    {key : ObjectKey} {plan : InstallPlan} {start : Duration}
    (hmem : .ofCall (.getInstallPlan key) (.ok plan) start ∈ log) : plan = fetched := by
  cases hc with
  | intro resolving approving looking named waiting succeeded =>
    simp only [List.mem_append, List.mem_cons, List.not_mem_nil, or_false] at hmem
    rcases hmem with hbefore | hfetch | happroval | hlook | hnamed | hwatch | hlast
    · cases (resolving _ hbefore).1
    · cases hfetch
      rfl
    · cases approving.2 _ happroval
    · obtain ⟨reply, time, heq⟩ := looking _ hlook
      cases heq
    · cases hnamed
    · obtain ⟨reply, time, heq⟩ := waiting _ hwatch
      cases heq
    · cases hlast

/-- The service version that the subscription names is the only one that is looked at. -/
lemma Concluded.eq_version (hc : Concluded subscription fetched found version log)
    {key : ObjectKey} {e : Event Platform} (he : e ∈ log) (hkey : e.watched? = some key) :
    key = ⟨subscription.ns, version⟩ := by
  cases hc with
  | intro resolving approving looking named waiting succeeded =>
    simp only [List.mem_append, List.mem_cons, List.not_mem_nil, or_false] at he
    rcases he with hbefore | rfl | happroval | hlook | rfl | hwatch | rfl
    · rw [(resolving _ hbefore).2] at hkey
      cases hkey
    · cases hkey
    · have hwrites := approving.2 _ happroval
      unfold Event.writesPlan at hwrites
      split at hwrites
      · cases hkey
      · cases hwrites
    · obtain ⟨reply, time, rfl⟩ := looking _ hlook
      cases hkey
    · cases hkey
    · obtain ⟨reply, time, rfl⟩ := waiting _ hwatch
      cases hkey
      rfl
    · cases hkey
      rfl

/-- The calls that show what an install is concluded with. -/
lemma Concluded.exists_mem (hc : Concluded subscription fetched found version log) :
    found.installedVersion? = some version ∧ ∃ plan reported start later last,
      .ofCall (.getInstallPlan ⟨subscription.ns, plan⟩) (.ok fetched) start ∈ log ∧
      .ofCall (.getSubscription subscription) (.ok (some found)) later ∈ log ∧
      .ofCall (.getServiceVersion ⟨subscription.ns, version⟩) (.ok (some reported)) last ∈ log ∧
      reported.phase = "Succeeded" := by
  cases hc with
  | @intro before approval looks watching plan reported start later last _ _ _ named _ succeeded =>
    refine ⟨named, plan, reported, start, later, last, ?_, ?_, ?_, succeeded⟩ <;> simp

/-- **The service version of a completed install.**  Let an install that has not approved its plan
yet and waits for its service version succeed, whatever the cluster answers.  Then one plan was
fetched, and the one service version that was looked at, and found to have succeeded, is the one
that the subscription named when it was looked at last, after the approval.  So it is a service
version of the plan exactly when that subscription names one. -/
theorem version_of_completion (h : Handler Platform σ) (poll : Poll) (now : Duration) (x : σ)
    (hs : 3 ≤ s.rank) (waits : run.waitForCompletion = true)
    (ho : (Program.run h (carryOut poll run s) now x).result = some (.ok ())) :
    let log := trace h (carryOut poll run s) now x
    ∃ fetched found version, Concluded run.subscription fetched found version log ∧
      (∀ key plan start,
        .ofCall (.getInstallPlan key) (.ok plan) start ∈ log → plan = fetched) ∧
      (∀ key reply start, .ofCall (.getServiceVersion key) reply start ∈ log →
        key = ⟨run.subscription.ns, version⟩) ∧
      (version ∈ fetched.spec.versions ↔
        ∃ name ∈ fetched.spec.versions, found.installedVersion? = some name) := by
  intro log
  have hc : Course h poll run s now x log _ := runs_carryOut (runs_self h _ now x)
  obtain ⟨fetched, found, version, hconcluded⟩ := hc.concluded hs waits ho
  have named := hconcluded.exists_mem.1
  refine ⟨fetched, found, version, hconcluded, ?_, ?_, ?_⟩
  · exact fun key plan start hmem => hconcluded.eq_fetched hmem
  · exact fun key reply start hmem => hconcluded.eq_version hmem rfl
  · constructor
    · exact fun hlisted => ⟨version, hlisted, named⟩
    · rintro ⟨name, hlisted, hname⟩
      rw [named] at hname
      cases hname
      exact hlisted

/-- A cluster that does as it is asked, but has not brought the status of the subscription up to
date: the plan would install the next service version. -/
def outdated : (call : Call) → Except Error call.Answer
  | .getInstallPlan _ => .ok { metadata := { }, spec := { versions := ["operator.v2"] } }
  | call => obliging call

lemma run_outdated :
    (Program.run (answering outdated) (carryOut .standard (.install exampleRequest) .start) 0
      ()).result = some (.ok ()) := by decide +kernel

/-- An install into it ends with the service version that was there before. -/
theorem version_of_completion_outdated :
    (Program.run (answering outdated) (installOperator .standard exampleRequest) 0 ()).result =
        some (.ok ()) ∧
      ∃ fetched found version, Concluded exampleRequest.key fetched found version
        (trace (answering outdated) (installOperator .standard exampleRequest) 0 ()) := by
  obtain ⟨fetched, found, version, hconcluded, -⟩ := version_of_completion (answering outdated)
    .standard 0 () (by decide) rfl run_outdated
  exact ⟨run_outdated, fetched, found, version, hconcluded⟩

/-- The plan of an install need not list the service version that the install ends with. -/
theorem completion_with_unlisted_version :
    ¬ ∀ (h : Handler Platform Unit) (poll : Poll) (run : InstallRun) (s : InstallState)
        (now : Duration) (key version : ObjectKey) (fetched : InstallPlan) (found : ServiceVersion)
        (start later : Duration),
      run.waitForCompletion = true → run.mode ≠ .upgrade →
      (Program.run h (carryOut poll run s) now ()).result = some (.ok ()) →
      .ofCall (.getInstallPlan key) (.ok fetched) start ∈ trace h (carryOut poll run s) now () →
      fetched.spec.versions ≠ [] →
      .ofCall (.getServiceVersion version) (.ok (some found)) later ∈
        trace h (carryOut poll run s) now () →
      found.phase = "Succeeded" → version.name ∈ fetched.spec.versions := by
  intro hlisted
  have hr := runs_self (answering outdated)
    (carryOut .standard (.install exampleRequest) .start) 0 ()
  obtain ⟨fetched, found, version, hconcluded⟩ :=
    (runs_carryOut hr).concluded (by decide) rfl run_outdated
  obtain ⟨named, plan, reported, start, later, last, hfetch, hlook, hlast, succeeded⟩ :=
    hconcluded.exists_mem
  -- every call is answered by the cluster at hand
  have hanswers : ∀ e ∈ trace (answering outdated) (carryOut .standard (.install exampleRequest)
      .start) 0 (), ∀ call reply time, e = .ofCall call reply time → reply = outdated call := by
    refine hr.forall_events fun op time _ call reply start heq => ?_
    cases op <;> cases heq
    rfl
  have hfetched := hanswers _ hfetch _ _ _ rfl
  have hfound := hanswers _ hlook _ _ _ rfl
  cases hfetched
  cases hfound
  have hversion : version = "operator.v1" := by
    have hnaming : (naming "install-1" "operator.v1").installedVersion? = some "operator.v1" := by
      decide
    rw [hnaming] at named
    exact (Option.some.inj named).symm
  have hmem := hlisted _ _ _ _ _ _ _ _ _ _ _ rfl (by decide) run_outdated hfetch (by simp) hlast
    succeeded
  rw [hversion] at hmem
  exact absurd hmem (by decide)

end Install
end Provisioner
