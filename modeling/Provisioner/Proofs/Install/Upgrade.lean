import Mathlib.Logic.Function.Basic
import Provisioner.Proofs.Install.Approval
import Provisioner.Proofs.Program.Asks
import Provisioner.Proofs.Program.Pauses
/-!
# Upgrading twice

What an upgrade leaves behind in a cluster that keeps subscriptions and install plans as they are
written.  The store of such a cluster changes by writes alone, so all looks of a wait see the same
subscription, and the plan that is approved is the one that this subscription names.  A second
upgrade finds that plan approved: it is two lookups and no wait.
-/

namespace Provisioner

/-- Subscriptions and install plans by namespace and name; a plan is kept under its own name. -/
@[ext]
structure Store where
  /-- The subscriptions. -/
  subscriptions : ObjectKey → Option Subscription
  /-- The install plans. -/
  plans : ObjectKey → Option InstallPlan
  named : ∀ key plan, plans key = some plan → plan.metadata.name = some key.name

lemma InstallPlan.approve_of_approved {plan : InstallPlan} (approved : plan.spec.approved = true) :
    plan.approve = plan := by
  rcases plan with ⟨metadata, ⟨approval, _, versions⟩, status⟩
  obtain rfl := approved
  rfl

namespace Store

/-- The store after a plan of this name is written. -/
def put (store : Store) (key : ObjectKey) (plan : InstallPlan)
    (named : plan.metadata.name = some key.name) : Store where
  subscriptions := store.subscriptions
  plans := Function.update store.plans key (some plan)
  named := by
    intro other found hfound
    by_cases hkey : other = key
    · subst hkey
      rw [Function.update_self, Option.some.injEq] at hfound
      rwa [← hfound]
    · rw [Function.update_of_ne hkey] at hfound
      exact store.named other found hfound

/-- The store with one of its plans approved, and all else as it was. -/
def approve (store : Store) (key : ObjectKey) : Store where
  subscriptions := store.subscriptions
  plans := Function.update store.plans key ((store.plans key).map InstallPlan.approve)
  named := by
    intro other found hfound
    by_cases hkey : other = key
    · subst hkey
      rw [Function.update_self] at hfound
      obtain ⟨plan, stored, rfl⟩ := Option.map_eq_some_iff.mp hfound
      exact store.named other plan stored
    · rw [Function.update_of_ne hkey] at hfound
      exact store.named other found hfound

variable {store : Store} {key : ObjectKey} {plan : InstallPlan}

lemma plans_approve (stored : store.plans key = some plan) :
    (store.approve key).plans key = some plan.approve := by
  simp [approve, stored]

/-- Writing a stored plan back approved approves it in the store. -/
lemma put_approve (stored : store.plans key = some plan) :
    store.put key plan.approve (store.named key plan stored) = store.approve key := by
  simp [put, approve, stored]

/-- There is nothing to approve where the plan is approved already. -/
lemma approve_eq_self (stored : store.plans key = some plan)
    (approved : plan.spec.approved = true) : store.approve key = store := by
  refine Store.ext rfl ?_
  show Function.update store.plans key ((store.plans key).map InstallPlan.approve) = store.plans
  rw [stored, Option.map_some, InstallPlan.approve_of_approved approved, ← stored,
    Function.update_eq_self]

end Store

namespace Install

open Program

variable {σ : Type} {h : Handler Platform σ} {store : σ → Store}

/-- The cluster keeps its subscriptions and install plans in a store: it answers with what is
stored, a plan that is written is stored in place of the one of that name, and nothing else changes
the store but writes. -/
structure BackedBy (h : Handler Platform σ) (store : σ → Store) : Prop where
  subscription : ∀ key now x, (h (.cluster (.getSubscription key)) now x).reply =
    .ok ((store x).subscriptions key)
  plan : ∀ key now x plan, (h (.cluster (.getInstallPlan key)) now x).reply = .ok plan ↔
    (store x).plans key = some plan
  written : ∀ key plan now x answer (named : plan.metadata.name = some key.name),
    (h (.cluster (.updateInstallPlan key.ns plan)) now x).reply = .ok answer →
      store (h (.cluster (.updateInstallPlan key.ns plan)) now x).state =
        (store x).put key plan named
  kept : ∀ call now x, call.isWrite = false → store (h (.cluster call) now x).state = store x

variable {poll : Poll} {key : ObjectKey} {now mid finish later : Duration} {x y u : σ}
  {log : List (Event Platform)}

/-! ## The two parts of an upgrade -/

/-- An upgrade waits for the name of a plan and then sees to its approval. -/
lemma upgradeOperator_eq (poll : Poll) (key : ObjectKey) :
    upgradeOperator poll key =
      ((awaitInstallPlan poll key).mapError (inPhase (.upgrade key) .subscriptionCreated)).bind
        fun plan => ((approveInstallPlan ⟨key.ns, plan⟩ true).mapError
          (inPhase (.upgrade key) (.awaitingInstallPlan plan))).bind fun _ => .done () := by
  have hend : carryOut poll (.upgrade key) .installPlanApproved = .done () := by
    rw [carryOut_eq_step poll _ rfl, step_installPlanApproved_of_ends poll rfl]
    exact carryOut_succeeded poll _
  rw [upgradeOperator, carryOut_eq_step poll _ rfl, step_subscriptionCreated, mapError_bind_done,
    Program.bind_assoc]
  refine congrArg (Program.bind _) (funext fun plan => ?_)
  rw [done_bind, carryOut_eq_step poll _ rfl, step_awaitingInstallPlan, mapError_bind_done,
    Program.bind_assoc]
  refine congrArg (Program.bind _) (funext fun written => ?_)
  rw [done_bind, hend]

/-- An upgrade that succeeds has been told the name of a plan and has seen to its approval. -/
lemma runs_upgradeOperator (hr : Runs h (upgradeOperator poll key) now x log
      ⟨some (.ok ()), finish, y⟩) :
    ∃ plan mid u l₁ l₂ written,
      Runs h (poll.watch (planWait key) (.getSubscription key) namedPlan) now x l₁
        ⟨some (.ok plan), mid, u⟩ ∧
      Runs h (approveInstallPlan ⟨key.ns, plan⟩ true) mid u l₂ ⟨some (.ok written), finish, y⟩ := by
  rw [upgradeOperator_eq] at hr
  obtain ⟨plan, mid, u, l₁, l₂, hplan, hrest, -⟩ := runs_bind_ok_iff.mp hr
  obtain ⟨written, _, _, l₃, _, happroval, hend, -⟩ := runs_bind_ok_iff.mp hrest
  obtain ⟨-, ho⟩ := runs_done_iff.mp hend
  cases ho
  rw [runs_mapError_ok_iff, awaitInstallPlan_eq, runs_mapError_ok_iff] at hplan
  exact ⟨plan, mid, u, l₁, l₃, written, hplan, runs_mapError_ok_iff.mp happroval⟩

namespace BackedBy

/-! ## The first time -/

/-- A wait for the name of a plan is decided by the subscription that is stored. -/
lemma runs_watch_plan (backed : BackedBy h store) {plan : String}
    (hr : Runs h (poll.watch (planWait key) (.getSubscription key) namedPlan) now x log
      ⟨some (.ok plan), mid, u⟩) :
    store u = store x ∧ ∃ subscription, (store x).subscriptions key = some subscription ∧
      subscription.installPlanName? = some plan := by
  have hasks : (poll.watch (planWait key) (.getSubscription key) namedPlan).AsksOnly
      (· = PlatformOp.cluster (.getSubscription key)) := asksOnly_watch (by rfl) poll _
  have hkept : ∀ op : PlatformOp, op = .cluster (.getSubscription key) →
      ∀ now x, store (h op now x).state = store x := by
    rintro op rfl now x
    exact backed.kept _ now x rfl
  obtain ⟨hstate, hanswers⟩ := hasks.keeps hkept hr
  refine ⟨hstate, ?_⟩
  cases runs_watch hr with
  | @found answer _ _ _ looks decided =>
    -- every look sees the subscription that is stored at the start, so the last one does
    obtain ⟨before, start, rfl, -⟩ := looks.eq_append
    obtain ⟨v, hv, hreply⟩ := hanswers (.ofCall (.getSubscription key) (.ok answer) start) (by simp)
    have hanswer : answer = (store x).subscriptions key := by
      rw [← hv]
      exact Except.ok.inj (hreply.trans (backed.subscription key start v))
    have hname : answer.bind (·.installPlanName?) = some plan := by
      simpa [namedPlan] using decided
    rw [hanswer] at hname
    exact Option.bind_eq_some_iff.mp hname

/-- Seeing to the approval of a plan that is stored approves it in the store. -/
lemma runs_approveInstallPlan (backed : BackedBy h store) {written : Bool}
    (hr : Runs h (approveInstallPlan key true) now x log ⟨some (.ok written), finish, y⟩) :
    ∃ fetched, (store x).plans key = some fetched ∧ store y = (store x).approve key := by
  obtain ⟨fetched, _, _, l₁, _, hfetch, hrest, -⟩ := runs_bind_ok_iff.mp hr
  obtain ⟨hreply, rfl⟩ := runs_perform_ok (runs_mapError_ok_iff.mp hfetch)
  have stored := (backed.plan key now x fetched).mp hreply
  have hkept := backed.kept (.getInstallPlan key) now x rfl
  refine ⟨fetched, stored, ?_⟩
  split at hrest
  case isTrue hleft =>
    obtain ⟨-, ho⟩ := runs_done_iff.mp hrest
    cases ho
    rw [hkept, Store.approve_eq_self stored (by simpa using hleft)]
  case isFalse =>
    obtain ⟨answer, _, _, l₂, _, hwrite, hend, -⟩ := runs_bind_ok_iff.mp hrest
    obtain ⟨-, ho⟩ := runs_done_iff.mp hend
    cases ho
    obtain ⟨hreply, rfl⟩ := runs_perform_ok hwrite
    have hname := (store x).named key fetched stored
    rw [← Store.put_approve stored, backed.written key fetched.approve _ _ answer hname hreply]
    simp only [hkept]

end BackedBy

/-! ## The second time -/

/-- The program ends well at once, with this value; it writes nothing, and the store stays. -/
def Idle (h : Handler Platform σ) (store : σ → Store) {α : Type} (p : Work α) (now : Duration)
    (x : σ) (value : α) : Prop :=
  ∃ log finish y, RunsAtOnce h p now x log ⟨some (.ok value), finish, y⟩ ∧
    (∀ e ∈ log, e.isWrite = false) ∧ store y = store x

section Idle

variable {α β : Type} {p : Work α} {value : α}

lemma idle_done (value : α) : Idle h store (.done value) now x value :=
  ⟨[], now, x, runsAtOnce_done h value now x, by simp, rfl⟩

lemma Idle.mapError (hp : Idle h store p now x value) (f : Error → Error) :
    Idle h store (p.mapError f) now x value := by
  obtain ⟨log, finish, y, hruns, hwrites, hstore⟩ := hp
  exact ⟨log, finish, y, hruns.mapError f, hwrites, hstore⟩

lemma Idle.bind {f : α → Work β} {last : β} (hp : Idle h store p now x value)
    (hf : ∀ mid u, store u = store x → Idle h store (f value) mid u last) :
    Idle h store (p.bind f) now x last := by
  obtain ⟨l₁, mid, u, hfirst, hwrites, hstore⟩ := hp
  obtain ⟨l₂, finish, y, hrest, hwrites', hstore'⟩ := hf mid u hstore
  refine ⟨l₁ ++ l₂, finish, y, hfirst.bind hrest, fun e he => ?_, hstore'.trans hstore⟩
  rcases List.mem_append.mp he with he | he
  · exact hwrites e he
  · exact hwrites' e he

/-- A call that is no write and is answered is idle. -/
lemma BackedBy.idle_perform (backed : BackedBy h store) {call : Call} {answer : call.Answer}
    (reads : call.isWrite = false) (answered : (h (.cluster call) now x).reply = .ok answer) :
    Idle h store call.perform now x answer := by
  let turn := h (.cluster call) now x
  have hend : RunsAtOnce h (ofExcept turn.reply) (now + turn.took) turn.state []
      ⟨some (.ok answer), now + turn.took, turn.state⟩ := by
    rw [show turn.reply = .ok answer from answered]
    exact runsAtOnce_ofExcept h _ _ _
  have hcall : RunsAtOnce h call.perform now x _ _ := hend.ask
  refine ⟨_, _, _, hcall, ?_, backed.kept call now x reads⟩
  simpa [Event.isWrite] using reads

end Idle

namespace BackedBy

/-- A subscription that names a plan ends the wait for its name at once. -/
lemma idle_awaitInstallPlan (backed : BackedBy h store) (hrounds : poll.rounds ≠ 0)
    {subscription : Subscription} {plan : String}
    (stored : (store x).subscriptions key = some subscription)
    (named : subscription.installPlanName? = some plan) :
    Idle h store (awaitInstallPlan poll key) now x plan := by
  have hlook : Idle h store ((Call.getSubscription key).perform.bind fun answer =>
      ofExcept (namedPlan answer)) now x (some plan) := by
    refine (backed.idle_perform rfl (backed.subscription key now x)).bind fun mid u _ => ?_
    rw [stored, namedPlan, Option.bind_some, named]
    exact idle_done _
  obtain ⟨log, finish, y, hruns, hwrites, hstore⟩ := hlook
  rw [awaitInstallPlan_eq]
  exact Idle.mapError ⟨log, finish, y, hruns.waitFor hrounds, hwrites, hstore⟩ _

/-- A plan that is approved already is left alone. -/
lemma idle_approveInstallPlan (backed : BackedBy h store) {plan : InstallPlan}
    (stored : (store x).plans key = some plan) (approved : plan.spec.approved = true) :
    Idle h store (approveInstallPlan key true) now x false := by
  have hfetch := backed.idle_perform rfl ((backed.plan key now x plan).mpr stored)
  refine (hfetch.mapError _).bind fun mid u _ => ?_
  rw [if_pos (by simpa using approved)]
  exact idle_done false

/-- There is nothing to upgrade where the plan that the subscription names is approved. -/
lemma idle_upgradeOperator (backed : BackedBy h store) (now : Duration) (hrounds : poll.rounds ≠ 0)
    {subscription : Subscription} {name : String} {plan : InstallPlan}
    (subscribed : (store x).subscriptions key = some subscription)
    (named : subscription.installPlanName? = some name)
    (stored : (store x).plans ⟨key.ns, name⟩ = some plan) (approved : plan.spec.approved = true) :
    Idle h store (upgradeOperator poll key) now x () := by
  rw [upgradeOperator_eq]
  have hplan : Idle h store (awaitInstallPlan poll key) now x name :=
    backed.idle_awaitInstallPlan hrounds subscribed named
  refine (hplan.mapError _).bind fun mid u hu => ?_
  rw [← hu] at stored
  exact ((backed.idle_approveInstallPlan stored approved).mapError _).bind fun _ _ _ => idle_done ()

/-- **Upgrading again changes nothing.**  Let the cluster keep its subscriptions and plans in a
store, and let an upgrade succeed.  Then the plan that the subscription names is stored and
approved, and but for that approval the store is as it was.  From there on, whenever the upgrade is
run again, it succeeds at once, without a sleep or a write, and the store stays as it is. -/
theorem upgradeOperator_again (backed : BackedBy h store) (poll : Poll) (key : ObjectKey)
    (now : Duration) (x : σ)
    (succeeds : (Program.run h (upgradeOperator poll key) now x).result = some (.ok ())) :
    let y := (Program.run h (upgradeOperator poll key) now x).state
    ∃ subscription name plan, (store y).subscriptions key = some subscription ∧
      subscription.installPlanName? = some name ∧
      (store y).plans ⟨key.ns, name⟩ = some plan ∧ plan.spec.approved = true ∧
      store y = (store x).approve ⟨key.ns, name⟩ ∧
      ∀ later,
        let again := Program.run h (upgradeOperator poll key) later y
        again.result = some (.ok ()) ∧ pauses h (upgradeOperator poll key) later y = [] ∧
        (∀ e ∈ trace h (upgradeOperator poll key) later y, e.isWrite = false) ∧
        store again.state = store y := by
  intro y
  obtain ⟨name, mid, u, l₁, l₂, written, hwatch, happroval⟩ :=
    runs_upgradeOperator (runs_of_result succeeds)
  obtain ⟨hu, subscription, subscribed, named⟩ := backed.runs_watch_plan hwatch
  obtain ⟨fetched, stored, hy⟩ := backed.runs_approveInstallPlan happroval
  rw [hu] at stored hy
  have hsubscribed : (store y).subscriptions key = some subscription := by
    rw [hy]
    exact subscribed
  have hstored : (store y).plans ⟨key.ns, name⟩ = some fetched.approve := by
    rw [hy]
    exact Store.plans_approve stored
  refine ⟨subscription, name, fetched.approve, hsubscribed, named, hstored, rfl, hy, ?_⟩
  intro later again
  have hrounds := hwatch.rounds_ne_zero (by simp)
  obtain ⟨log, finish, z, hruns, hwrites, hz⟩ :=
    backed.idle_upgradeOperator later hrounds hsubscribed named hstored rfl
  have hagain : again = ⟨some (.ok ()), finish, z⟩ := hruns.run_eq
  refine ⟨?_, hruns.pauses_eq, ?_, ?_⟩
  · rw [hagain]
  · rw [hruns.trace_eq]
    exact hwrites
  · rw [hagain]
    exact hz

end BackedBy

/-- A store after a plan is written, under the name that the plan has. -/
def writePlan (store : Store) (ns : String) (plan : InstallPlan) : Store :=
  match named : plan.metadata.name with
  | some name => store.put ⟨ns, name⟩ plan named
  | none => store

lemma writePlan_eq_put {store : Store} {plan : InstallPlan}
    (named : plan.metadata.name = some key.name) :
    writePlan store key.ns plan = store.put key plan named := by
  unfold writePlan
  split
  case h_1 name hname =>
    obtain rfl : name = key.name := by simpa [hname] using named
    rfl
  case h_2 hname => simp [hname] at named

/-- A cluster that is its store. -/
def storing : Handler Platform Store
  | .cluster (.getSubscription key), _, store => ⟨.ok (store.subscriptions key), 0, store⟩
  | .cluster (.getInstallPlan key), _, store =>
    match store.plans key with
    | some plan => ⟨.ok plan, 0, store⟩
    | none => ⟨.error (.notFound key.text), 0, store⟩
  | .cluster (.updateInstallPlan ns plan), _, store => ⟨.ok plan, 0, writePlan store ns plan⟩
  | .cluster _, _, store => ⟨.error (.notFound ""), 0, store⟩
  | .monitoring _, _, store => ⟨.error ⟨""⟩, 0, store⟩

lemma backedBy_storing : BackedBy storing id where
  subscription key now x := rfl
  plan key now x plan := by
    cases hplan : x.plans key <;> simp [storing, hplan]
  written key plan now x answer named answered := writePlan_eq_put named
  kept call now x reads := by
    cases call with
    | getInstallPlan key => cases hplan : x.plans key <;> simp [storing, hplan]
    | _ => first | rfl | cases reads

/-- A store in which every subscription names a plan that is not approved, as newer managers report
it. -/
def pending : Store where
  subscriptions key := some {
    metadata := { name := some key.name, ns := some key.ns }
    spec := { source := "catalog", sourceNamespace := "olm", package := key.name }
    status := some {
      installPlan := some { name := "" }, installPlanRef := some { name := "install-1" } } }
  plans key := some { metadata := { name := some key.name }, spec := { approval := .manual } }
  named := by
    rintro key plan hplan
    obtain rfl := Option.some.inj hplan
    rfl

/-- The plan is approved the first time, and the second time is at once. -/
theorem upgradeOperator_again_pending :
    let upgrade := upgradeOperator .standard ⟨"olm", "pxc"⟩
    let first := Program.run storing upgrade 0 pending
    BackedBy storing id ∧ first.result = some (.ok ()) ∧
      ∃ name, first.state = pending.approve ⟨"olm", name⟩ ∧
        (Program.run storing upgrade (.ofSeconds 60) first.state).result = some (.ok ()) ∧
        pauses storing upgrade (.ofSeconds 60) first.state = [] := by
  intro upgrade first
  have succeeds : first.result = some (.ok ()) := by decide +kernel
  obtain ⟨_, name, _, -, -, -, -, happroved, hagain⟩ :=
    backedBy_storing.upgradeOperator_again .standard ⟨"olm", "pxc"⟩ 0 pending succeeds
  obtain ⟨hresult, hpauses, -⟩ := hagain (.ofSeconds 60)
  exact ⟨backedBy_storing, succeeds, name, happroved, hresult, hpauses⟩

end Install

end Provisioner
