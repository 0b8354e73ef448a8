import Provisioner.Proofs.Bootstrap.Calls
/-!
# Answers that decide a wait

Each of the four waits of an install looks at one object.  An error decides the wait, and so does
the evidence that it waits for, or that there will be none; every other answer says nothing yet.
`Decides` lists the answers that decide, with what the wait comes to by each.  A wait takes an
answer as it `reading` says, which is the same (`decides_iff`, `leavesOpen_iff`).
-/

namespace Provisioner

/-! ## What the objects report -/

/-- The status names an install plan: by the older reference, or by the newer one where the older
names none. -/
inductive SubscriptionStatus.NamesPlan (status : SubscriptionStatus) : String → Prop
  | older {reference : PlanReference} (given : status.installPlan = some reference)
      (nonempty : reference.name ≠ "") : status.NamesPlan reference.name
  | newer {reference : PlanReference}
      (unnamed : ∀ r, status.installPlan = some r → r.name = "")
      (given : status.installPlanRef = some reference) (nonempty : reference.name ≠ "") :
      status.NamesPlan reference.name

/-- The status counts as many pods as the deployment wants, and counts them for its latest
generation. -/
structure Deployment.RolledOut (d : Deployment) (status : DeploymentStatus) : Prop where
  current : d.metadata.generation.getD 0 ≤ status.observedGeneration.getD 0
  updated : status.updatedReplicas.getD 0 = d.desiredReplicas
  ready : status.readyReplicas.getD 0 = d.desiredReplicas
  available : status.availableReplicas.getD 0 = d.desiredReplicas

lemma SubscriptionStatus.find?_eq_some_iff {status : SubscriptionStatus} {plan : String} :
    ([status.installPlan, status.installPlanRef].filterMap (·.map PlanReference.name)).find?
      (fun name => name != "") = some plan ↔ status.NamesPlan plan := by
  constructor
  · intro hfind
    have hnonempty : plan ≠ "" := by simpa using List.find?_some hfind
    by_cases hunnamed : ∀ r, status.installPlan = some r → r.name = ""
    · -- the older reference names none, so it is the newer one that names the plan
      have hnewer : ∃ r, status.installPlanRef = some r ∧ r.name = plan := by
        have hmem := List.mem_of_find?_eq_some hfind
        rw [List.mem_filterMap] at hmem
        obtain ⟨reference?, hreference, hname⟩ := hmem
        obtain ⟨reference, rfl, rfl⟩ := Option.map_eq_some_iff.mp hname
        rcases List.mem_pair.mp hreference with holder | hnewer
        · exact absurd (hunnamed reference holder.symm) hnonempty
        · exact ⟨reference, hnewer.symm, rfl⟩
      obtain ⟨reference, hgiven, rfl⟩ := hnewer
      exact .newer hunnamed hgiven hnonempty
    · push Not at hunnamed
      obtain ⟨reference, hgiven, hne⟩ := hunnamed
      have hplan : reference.name = plan := by simpa [hgiven, hne] using hfind
      rw [← hplan]
      exact .older hgiven hne
  · intro hnames
    cases hnames with
    | older given nonempty => simp [given, nonempty]
    | newer unnamed given nonempty =>
      cases holder : status.installPlan with
      | none => simp [given, nonempty]
      | some reference => simp [given, nonempty, unnamed reference holder]

lemma Subscription.installPlanName?_eq_some_iff {found : Subscription} {plan : String} :
    found.installPlanName? = some plan ↔
      ∃ status, found.status = some status ∧ status.NamesPlan plan := by
  simp only [← SubscriptionStatus.find?_eq_some_iff]
  exact Option.bind_eq_some_iff

lemma Subscription.installedVersion?_eq_some_iff {found : Subscription} {version : String} :
    found.installedVersion? = some version ↔
      ∃ status, found.status = some status ∧ status.installedVersion = some version ∧
        version ≠ "" := by
  constructor
  · intro hname
    obtain ⟨status, hstatus, hrest⟩ := Option.bind_eq_some_iff.mp hname
    obtain ⟨name, hinstalled, hnonempty⟩ := Option.bind_eq_some_iff.mp hrest
    split at hnonempty
    case isTrue => cases hnonempty
    case isFalse hne =>
      cases hnonempty
      exact ⟨status, hstatus, hinstalled, hne⟩
  · rintro ⟨status, hstatus, hinstalled, hne⟩
    simp [Subscription.installedVersion?, hstatus, hinstalled, hne]

lemma ServiceVersion.phase_eq_iff {found : ServiceVersion} {phase : String} (hp : phase ≠ "") :
    found.phase = phase ↔ ∃ status, found.status = some status ∧ status.phase = some phase := by
  have hbind : found.phase = phase ↔ found.status.bind (·.phase) = some phase := by
    unfold ServiceVersion.phase
    cases found.status.bind (·.phase) with
    | none => simpa using hp.symm
    | some reported => simp
  rw [hbind, Option.bind_eq_some_iff]

lemma Deployment.isRolloutComplete_iff {d : Deployment} :
    d.isRolloutComplete = true ↔ ∃ status, d.status = some status ∧ d.RolledOut status := by
  unfold Deployment.isRolloutComplete
  cases hstatus : d.status with
  | none => simp
  | some status =>
    simp only [Bool.and_eq_true, decide_eq_true_eq, beq_iff_eq, Option.some.injEq, exists_eq_left']
    constructor
    · rintro ⟨⟨⟨hcurrent, hupdated⟩, hready⟩, havailable⟩
      exact ⟨hcurrent, hupdated, hready, havailable⟩
    · rintro ⟨hcurrent, hupdated, hready, havailable⟩
      exact ⟨⟨⟨hcurrent, hupdated⟩, hready⟩, havailable⟩

namespace Install

/-! ## The waits -/

/-- The waits of an install. -/
inductive Wait where
  /-- For a subscription to name its install plan. -/
  | plan (subscription : ObjectKey)
  /-- For a subscription to name the service version that is installed. -/
  | version (subscription : ObjectKey)
  /-- For a service version to be installed. -/
  | completion (version : ObjectKey)
  /-- For a deployment to roll out. -/
  | rollout (deployment : ObjectKey)

namespace Wait

/-- What a wait gives when it ends well. -/
abbrev Value : Wait → Type
  | plan _ => String
  | version _ => ObjectKey
  | completion _ | rollout _ => Unit

/-- How a wait looks at its object. -/
abbrev call : Wait → Call
  | plan key | version key => .getSubscription key
  | completion key => .getServiceVersion key
  | rollout key => .getDeployment key

/-- The work of a wait. -/
def work (poll : Poll) : (w : Wait) → Work w.Value
  | plan key => awaitInstallPlan poll key
  | version key => awaitInstalledVersion poll key
  | completion key => awaitVersionSucceeded poll key
  | rollout key => waitForRollout poll key

/-- An answer that decides a wait, and what it comes to by it: an error is passed on, and evidence of
what is waited for is the value. -/
inductive Decides : (w : Wait) → Except Error w.call.Answer → Except Error w.Value → Prop
  | refused {w : Wait} (e : Error) : Decides w (.error e) (.error e)
  | planNamed {key : ObjectKey} {found : Subscription} {status : SubscriptionStatus}
      {name : String} (reported : found.status = some status) (named : status.NamesPlan name) :
      Decides (.plan key) (.ok (some found)) (.ok name)
  | versionNamed {key : ObjectKey} {found : Subscription} {status : SubscriptionStatus}
      {name : String} (reported : found.status = some status)
      (named : status.installedVersion = some name) (nonempty : name ≠ "") :
      Decides (.version key) (.ok (some found)) (.ok ⟨key.ns, name⟩)
  | succeeded {key : ObjectKey} {found : ServiceVersion} {status : ServiceVersionStatus}
      (reported : found.status = some status) (phase : status.phase = some "Succeeded") :
      Decides (.completion key) (.ok (some found)) (.ok ())
  | failed {key : ObjectKey} {found : ServiceVersion} {status : ServiceVersionStatus}
      (reported : found.status = some status) (phase : status.phase = some "Failed") :
      Decides (.completion key) (.ok (some found)) (.error (versionError key found))
  | rolledOut {key : ObjectKey} {found : Deployment} {status : DeploymentStatus}
      (reported : found.status = some status) (complete : found.RolledOut status) :
      Decides (.rollout key) (.ok (some found)) (.ok ())

/-- An answer that says nothing yet. -/
def LeavesOpen (w : Wait) (answer : Except Error w.call.Answer) : Prop :=
  ∀ outcome, ¬ w.Decides answer outcome

/-! ### What an answer decides -/

/-- How a wait takes an answer to its call. -/
def reading : (w : Wait) → w.call.Answer → Except Error (Option w.Value)
  | plan _, found => namedPlan found
  | version key, found => (namedVersion found).map fun name? => name?.map fun name => ⟨key.ns, name⟩
  | completion key, found => reportedPhase key found
  | rollout _, found => Install.rolledOut found

lemma decides_error_iff {w : Wait} {e : Error} {outcome : Except Error w.Value} :
    w.Decides (.error e) outcome ↔ outcome = .error e := by
  constructor
  · intro hd
    cases w <;> cases hd <;> rfl
  · rintro rfl
    exact .refused e

lemma decides_plan_iff {key : ObjectKey} {found : Option Subscription}
    {outcome : Except Error String} :
    (plan key).Decides (.ok found) outcome ↔ namedPlan found = outcome.map some := by
  constructor
  · intro hd
    cases hd with
    | @planNamed _ subscription status name reported named =>
      have hname : subscription.installPlanName? = some name :=
        Subscription.installPlanName?_eq_some_iff.mpr ⟨status, reported, named⟩
      simp [namedPlan, hname, Except.map]
  · intro hread
    rcases outcome with e | name <;> simp only [namedPlan, Except.map, reduceCtorEq, Except.ok.injEq] at hread
    obtain ⟨subscription, rfl, hname⟩ := Option.bind_eq_some_iff.mp hread
    obtain ⟨status, reported, named⟩ := Subscription.installPlanName?_eq_some_iff.mp hname
    exact .planNamed reported named

lemma decides_version_iff {key : ObjectKey} {found : Option Subscription}
    {outcome : Except Error ObjectKey} :
    (version key).Decides (.ok found) outcome ↔
      (version key).reading found = outcome.map some := by
  constructor
  · intro hd
    cases hd with
    | @versionNamed _ subscription status name reported named nonempty =>
      have hname : subscription.installedVersion? = some name :=
        Subscription.installedVersion?_eq_some_iff.mpr ⟨status, reported, named, nonempty⟩
      simp [reading, namedVersion, hname, Except.map]
  · intro hread
    rcases outcome with e | v <;>
      simp only [reading, namedVersion, Except.map, reduceCtorEq, Except.ok.injEq,
        Option.map_eq_some_iff] at hread
    obtain ⟨name, hfound, rfl⟩ := hread
    obtain ⟨subscription, rfl, hname⟩ := Option.bind_eq_some_iff.mp hfound
    obtain ⟨status, reported, named, nonempty⟩ :=
      Subscription.installedVersion?_eq_some_iff.mp hname
    exact .versionNamed reported named nonempty

lemma isFailed_iff {found : ServiceVersion} :
    found.isFailed = true ↔ ∃ status, found.status = some status ∧ status.phase = some "Failed" := by
  unfold ServiceVersion.isFailed
  rw [beq_iff_eq, ServiceVersion.phase_eq_iff (by decide)]

lemma isSucceeded_iff {found : ServiceVersion} :
    found.isSucceeded = true ↔
      ∃ status, found.status = some status ∧ status.phase = some "Succeeded" := by
  unfold ServiceVersion.isSucceeded
  rw [beq_iff_eq, ServiceVersion.phase_eq_iff (by decide)]

lemma decides_completion_iff {key : ObjectKey} {found : Option ServiceVersion}
    {outcome : Except Error Unit} :
    (completion key).Decides (.ok found) outcome ↔ reportedPhase key found = outcome.map some := by
  constructor
  · intro hd
    cases hd with
    | @succeeded _ found status reported phase =>
      have hsucceeded : found.isSucceeded = true := isSucceeded_iff.mpr ⟨status, reported, phase⟩
      have hphase : found.phase = "Succeeded" := by
        simpa [ServiceVersion.isSucceeded] using hsucceeded
      have hfailed : found.isFailed = false := by simp [ServiceVersion.isFailed, hphase]
      simp [reportedPhase, hsucceeded, hfailed, Except.map]
    | @failed _ found status reported phase =>
      have hfailed : found.isFailed = true := isFailed_iff.mpr ⟨status, reported, phase⟩
      simp [reportedPhase, hfailed, Except.map]
  · intro hread
    rcases outcome with e | ⟨⟩
    · obtain ⟨found, rfl, hfailed, rfl⟩ := reportedPhase_eq_error hread
      obtain ⟨status, reported, phase⟩ := isFailed_iff.mp hfailed
      exact .failed reported phase
    · obtain ⟨found, rfl, hsucceeded⟩ := reportedPhase_eq_some hread
      obtain ⟨status, reported, phase⟩ := isSucceeded_iff.mp hsucceeded
      exact .succeeded reported phase

lemma decides_rollout_iff {key : ObjectKey} {found : Option Deployment}
    {outcome : Except Error Unit} :
    (rollout key).Decides (.ok found) outcome ↔ Install.rolledOut found = outcome.map some := by
  constructor
  · intro hd
    cases hd with
    | @rolledOut _ deployment status reported complete =>
      have hcomplete : deployment.isRolloutComplete = true :=
        Deployment.isRolloutComplete_iff.mpr ⟨status, reported, complete⟩
      simp [Install.rolledOut, hcomplete, Except.map]
  · intro hread
    rcases outcome with e | ⟨⟩
    · cases hread
    · obtain ⟨deployment, rfl, hcomplete⟩ := rolledOut_eq_some hread
      obtain ⟨status, reported, complete⟩ := Deployment.isRolloutComplete_iff.mp hcomplete
      exact .rolledOut reported complete

/-- An answer decides a wait exactly when the wait takes it for an error or a value. -/
lemma decides_iff {w : Wait} {answer : Except Error w.call.Answer}
    {outcome : Except Error w.Value} :
    w.Decides answer outcome ↔ answer.bind w.reading = outcome.map some := by
  cases answer with
  | error e =>
    rw [decides_error_iff]
    cases outcome <;> simp [Except.bind, Except.map, eq_comm]
  | ok found =>
    cases w with
    | plan key => exact decides_plan_iff
    | version key => exact decides_version_iff
    | completion key => exact decides_completion_iff
    | rollout key => exact decides_rollout_iff

/-- Every other answer is passed over. -/
lemma leavesOpen_iff {w : Wait} {answer : Except Error w.call.Answer} :
    w.LeavesOpen answer ↔ answer.bind w.reading = .ok none := by
  simp only [LeavesOpen, decides_iff]
  constructor
  · intro hopen
    rcases hread : answer.bind w.reading with e | _ | value
    · exact absurd hread (hopen (.error e))
    · rfl
    · exact absurd hread (hopen (.ok value))
  · rintro hread outcome hdecided
    rw [hread] at hdecided
    cases outcome <;> cases hdecided

end Wait

end Install

end Provisioner
