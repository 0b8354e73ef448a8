import Provisioner.Proofs.Install.Course
/-!
# The approval of a plan

Approving a plan is the one thing that an install cannot take back.  In every install there is at
most one place where a plan is looked up and written: everything before it and after it leaves plans
alone.  At that place the plan that was just fetched is written, approved and otherwise as it was,
unless the install leaves approved plans alone and this is one.
-/

namespace Provisioner

/-- Whether an event writes an install plan. -/
def Event.writesPlan : Event Platform → Bool
  | ⟨.cluster (.updateInstallPlan ..), _, _⟩ => true
  | _ => false

/-- Whether an event looks up or writes an install plan. -/
def Event.isPlanCall : Event Platform → Bool
  | ⟨.cluster (.getInstallPlan _), _, _⟩ | ⟨.cluster (.updateInstallPlan ..), _, _⟩ => true
  | _ => false

/-- Whether an event changes the cluster. -/
def Event.isWrite : Event Platform → Bool
  | ⟨.cluster call, _, _⟩ => call.isWrite
  | _ => false

namespace Install

open Program

variable {σ : Type} {h : Handler Platform σ} {poll : Poll} {run : InstallRun} {s t : InstallState}
  {now finish : Duration} {x : σ} {log : List (Event Platform)} {o : Outcome σ Error Unit}

/-- The calls about plans that an install makes. -/
inductive ApprovalCalls (run : InstallRun) : List (Event Platform) → Prop
  | none : ApprovalCalls run []
  | unfetched (key : ObjectKey) (e : Error) (start : Duration) :
      ApprovalCalls run [.ofCall (.getInstallPlan key) (.error e) start]
  | left {key : ObjectKey} {fetched : InstallPlan} {start : Duration}
      (skips : run.skipsApproved = true) (approved : fetched.spec.approved = true) :
      ApprovalCalls run [.ofCall (.getInstallPlan key) (.ok fetched) start]
  | written {key : ObjectKey} {fetched : InstallPlan} {reply : Except Error InstallPlan}
      {start later : Duration}
      (needed : ¬ (run.skipsApproved = true ∧ fetched.spec.approved = true)) :
      ApprovalCalls run [.ofCall (.getInstallPlan key) (.ok fetched) start,
        .ofCall (.updateInstallPlan key.ns fetched.approve) reply later]

/-- The events without a call about plans. -/
def PlanFree (log : List (Event Platform)) : Prop := ∀ e ∈ log, e.isPlanCall = false

/-- The events have one place at most at which plans are looked up and written. -/
def OneApproval (run : InstallRun) (log : List (Event Platform)) : Prop :=
  ∃ before calls after, log = before ++ calls ++ after ∧
    PlanFree before ∧ ApprovalCalls run calls ∧ PlanFree after

/-! ## One place in every install -/

/-- Only while an install awaits its plan does it look up or write plans. -/
lemma StepCall.isPlanCall {call : Call} {e : Event Platform} (hc : StepCall run s call)
    (he : e.Asks call) (hs : ∀ plan, s ≠ .awaitingInstallPlan plan) : e.isPlanCall = false := by
  obtain ⟨reply, start, rfl⟩ := he
  cases hc <;> first | rfl | exact absurd rfl (hs _)

lemma Stepped.planFree {o : Outcome σ Error InstallState} (hs : Stepped poll run s log o)
    (hplan : ∀ plan, s ≠ .awaitingInstallPlan plan) : PlanFree log := by
  intro e he
  obtain ⟨call, hcall, hasks⟩ := hs.stepCall he
  exact hcall.isPlanCall hasks hplan

/-- After the approval there are no more calls about plans. -/
lemma Course.planFree (hc : Course h poll run s now x log o) (hs : s.rank ≤ 2) : PlanFree log := by
  intro e he
  obtain ⟨t, call, hrank, hcall, hasks⟩ := hc.stepCall he
  refine hcall.isPlanCall hasks fun plan ht => ?_
  rw [ht] at hrank
  exact absurd (Nat.le_trans hrank hs) (by simp [InstallState.rank])

lemma planFree_nil : PlanFree [] := by simp [PlanFree]

lemma PlanFree.oneApproval (hlog : PlanFree log) : OneApproval run log :=
  ⟨log, [], [], by simp, hlog, .none, planFree_nil⟩

lemma ApprovalCalls.oneApproval (hlog : ApprovalCalls run log) : OneApproval run log :=
  ⟨[], log, [], by simp, planFree_nil, hlog, planFree_nil⟩

/-- A step that fails makes its calls about plans in order, if any. -/
lemma Breakdown.oneApproval {e : Error} (hb : Breakdown poll run s log e finish) :
    OneApproval run log := by
  by_cases hplan : ∃ plan, s = .awaitingInstallPlan plan
  · obtain ⟨plan, rfl⟩ := hplan
    cases hb with
    | fetch => exact (ApprovalCalls.unfetched _ _ _).oneApproval
    | write needed => exact (ApprovalCalls.written needed).oneApproval
  · have hfree : PlanFree log := by
      intro e he
      obtain ⟨call, hcall, hasks⟩ := hb.stepCall he
      exact hcall.isPlanCall hasks fun plan hs => hplan ⟨plan, hs⟩
    exact hfree.oneApproval

/-- In every install there is at most one place at which plans are looked up and written. -/
lemma Course.oneApproval (hc : Course h poll run s now x log o) : OneApproval run log := by
  induction hc with
  | succeeded => exact planFree_nil.oneApproval
  | failed => exact planFree_nil.oneApproval
  | @onward s t now mid x y l₁ l₂ o hs made rest ih =>
    have hstep := runs_step hs made
    by_cases hplan : ∃ plan, s = .awaitingInstallPlan plan
    · -- the plan is approved in this step, and plans are left alone from then on
      obtain ⟨plan, rfl⟩ := hplan
      cases hstep with
      | onward progress =>
        cases progress with
        | left skips approved =>
          exact ⟨[], _, l₂, rfl, planFree_nil, .left skips approved, rest.planFree (by decide)⟩
        | approved needed =>
          exact ⟨[], _, l₂, rfl, planFree_nil, .written needed, rest.planFree (by decide)⟩
    · -- the place is in what follows this step
      have hfree := hstep.planFree fun plan hs => hplan ⟨plan, hs⟩
      obtain ⟨before, calls, after, rfl, hbefore, happroval, hafter⟩ := ih
      refine ⟨l₁ ++ before, calls, after, by simp, ?_, happroval, hafter⟩
      intro e he
      rcases List.mem_append.mp he with he | he
      · exact hfree e he
      · exact hbefore e he
  | broken hs made =>
    cases runs_step hs made with
    | broken breakdown => exact breakdown.oneApproval
  | @unended s now finish x y log hs made =>
    refine ((runs_step hs made).planFree ?_).oneApproval
    rintro plan rfl
    cases runs_step hs made with
    | unended unended => cases unended

/-! ## What is at that place -/

/-- A call about plans can only be found at the one place. -/
lemma split_of_planFree {before calls after u v : List (Event Platform)} {e : Event Platform}
    (hbefore : PlanFree before) (hafter : PlanFree after) (he : e.isPlanCall = true)
    (hlog : before ++ calls ++ after = u ++ e :: v) :
    ∃ c₁ c₂, calls = c₁ ++ e :: c₂ ∧ u = before ++ c₁ ∧ v = c₂ ++ after := by
  have hin : ∀ {l : List (Event Platform)}, PlanFree l → e ∉ l := by
    intro l hl hmem
    rw [hl e hmem] at he
    cases he
  -- the event stands in one of the three parts, and it can only be the one in the middle
  rw [List.append_assoc] at hlog
  rcases List.append_eq_append_iff.mp hlog with ⟨c₁, rfl, hcalls⟩ | ⟨c, rfl, hrest⟩
  · rcases List.append_eq_append_iff.mp hcalls with ⟨c, rfl, rfl⟩ | ⟨c, rfl, hrest⟩
    · exact absurd (by simp) (hin hafter)
    · rcases List.cons_eq_append_iff.mp hrest with ⟨rfl, rfl⟩ | ⟨c₂, rfl, rfl⟩
      · exact absurd (by simp) (hin hafter)
      · exact ⟨c₁, c₂, rfl, rfl, rfl⟩
  · rcases List.cons_eq_append_iff.mp hrest with ⟨rfl, hcalls⟩ | ⟨c₂, rfl, -⟩
    · rcases List.append_eq_cons_iff.mp hcalls with ⟨rfl, rfl⟩ | ⟨c₂, rfl, rfl⟩
      · exact absurd (by simp) (hin hafter)
      · exact ⟨[], c₂, rfl, by simp, rfl⟩
    · exact absurd (by simp) (hin hbefore)

/-- A plan is written right after it was fetched, and nothing but its approval is changed. -/
lemma ApprovalCalls.fetched_of_write {c₁ c₂ : List (Event Platform)} {ns : String}
    {plan : InstallPlan} {reply : Except Error InstallPlan} {start : Duration}
    (hc : ApprovalCalls run (c₁ ++ .ofCall (.updateInstallPlan ns plan) reply start :: c₂)) :
    ∃ key fetched time, c₁ = [.ofCall (.getInstallPlan key) (.ok fetched) time] ∧ ns = key.ns ∧
      plan = fetched.approve := by
  generalize hlog : c₁ ++ Event.ofCall (.updateInstallPlan ns plan) reply start :: c₂ = log at hc
  cases hc with
  | none => simp at hlog
  | unfetched key e time => simp [List.append_eq_cons_iff] at hlog
  | left skips approved => simp [List.append_eq_cons_iff] at hlog
  | @written key fetched _ time _ needed =>
    rcases c₁ with _ | ⟨first, c₁⟩
    · cases hlog
    · obtain ⟨rfl, htail⟩ := List.cons.inj hlog
      rcases List.append_eq_cons_iff.mp htail with ⟨rfl, hwrite⟩ | ⟨c, rfl, hnil⟩
      · cases hwrite
        exact ⟨key, fetched, time, rfl, rfl, rfl⟩
      · simp at hnil

/-- A plan that was fetched is written next exactly when its approval is needed. -/
lemma ApprovalCalls.write_of_fetched {c₁ c₂ : List (Event Platform)} {key : ObjectKey}
    {fetched : InstallPlan} {start : Duration}
    (hc : ApprovalCalls run (c₁ ++ .ofCall (.getInstallPlan key) (.ok fetched) start :: c₂)) :
    (c₂ = [] ∧ run.skipsApproved = true ∧ fetched.spec.approved = true) ∨
    (∃ reply time, c₂ = [.ofCall (.updateInstallPlan key.ns fetched.approve) reply time] ∧
      ¬ (run.skipsApproved = true ∧ fetched.spec.approved = true)) := by
  generalize hlog : c₁ ++ Event.ofCall (.getInstallPlan key) (.ok fetched) start :: c₂ = log at hc
  cases hc with
  | none => simp at hlog
  | unfetched key e time => simp [List.append_eq_cons_iff] at hlog
  | left skips approved =>
    rcases List.append_eq_cons_iff.mp hlog with ⟨rfl, hfetch⟩ | ⟨c, rfl, hnil⟩
    · cases hfetch
      exact .inl ⟨rfl, skips, approved⟩
    · simp at hnil
  | @written key fetched reply time later needed =>
    rcases c₁ with _ | ⟨first, c₁⟩
    · cases hlog
      exact .inr ⟨reply, later, rfl, needed⟩
    · obtain ⟨rfl, htail⟩ := List.cons.inj hlog
      simp [List.append_eq_cons_iff] at htail

/-- Plans that are approved already are left alone by every install but a new one. -/
lemma skipsApproved_iff : run.skipsApproved = true ↔ run.mode ≠ .install := by
  simp [InstallRun.skipsApproved]

/-! ## Whole installs -/

lemma isPlanCall_of_writesPlan {e : Event Platform} (hwrites : e.writesPlan = true) :
    e.isPlanCall = true := by
  unfold Event.writesPlan at hwrites
  split at hwrites
  · rfl
  · cases hwrites

lemma filter_writesPlan_of_planFree (hlog : PlanFree log) : log.filter Event.writesPlan = [] := by
  rw [List.filter_eq_nil_iff]
  intro e he hwrites
  have hfree := hlog e he
  rw [isPlanCall_of_writesPlan hwrites] at hfree
  cases hfree

lemma ApprovalCalls.length_writes_le (hc : ApprovalCalls run log) :
    (log.filter Event.writesPlan).length ≤ 1 := by
  cases hc <;> simp [Event.writesPlan, List.filter_cons]

lemma OneApproval.length_writes_le (hlog : OneApproval run log) :
    (log.filter Event.writesPlan).length ≤ 1 := by
  obtain ⟨before, calls, after, rfl, hbefore, hcalls, hafter⟩ := hlog
  simpa [filter_writesPlan_of_planFree hbefore, filter_writesPlan_of_planFree hafter] using
    hcalls.length_writes_le

lemma StepCall.isWrite {call : Call} (hc : StepCall run s call) (hwrite : call.isWrite = true) :
    (∃ key, call = .createOperatorGroup key) ∨
    (∃ subscription, call = .createSubscription subscription) ∨
    ∃ ns plan, call = .updateInstallPlan ns plan := by
  cases hc with
  | group => exact .inl ⟨_, rfl⟩
  | subscription => exact .inr (.inl ⟨_, rfl⟩)
  | write => exact .inr (.inr ⟨_, _, rfl⟩)
  | _ => cases hwrite

/-- Wherever a plan is written, it was fetched by the call before. -/
lemma OneApproval.fetched_of_write {before after : List (Event Platform)} {ns : String}
    {plan : InstallPlan} {reply : Except Error InstallPlan} {start : Duration}
    (hlog : OneApproval run
      (before ++ .ofCall (.updateInstallPlan ns plan) reply start :: after)) :
    ∃ earlier key fetched time,
      before = earlier ++ [.ofCall (.getInstallPlan key) (.ok fetched) time] ∧ ns = key.ns ∧
      plan = fetched.approve := by
  obtain ⟨before', calls, after', heq, hbefore, hcalls, hafter⟩ := hlog
  obtain ⟨c₁, c₂, rfl, rfl, rfl⟩ := split_of_planFree hbefore hafter rfl heq.symm
  obtain ⟨key, fetched, time, rfl, hns, hplan⟩ := hcalls.fetched_of_write
  exact ⟨before', key, fetched, time, rfl, hns, hplan⟩

/-- Wherever a plan is fetched, it is written by the next call exactly when that is needed. -/
lemma OneApproval.write_iff {before after : List (Event Platform)} {key : ObjectKey}
    {fetched : InstallPlan} {start : Duration}
    (hlog : OneApproval run
      (before ++ .ofCall (.getInstallPlan key) (.ok fetched) start :: after)) :
    (∃ plan reply time rest, after = .ofCall (.updateInstallPlan key.ns plan) reply time :: rest) ↔
      run.mode = .install ∨ fetched.spec.approved = false := by
  obtain ⟨before', calls, after', heq, hbefore, hcalls, hafter⟩ := hlog
  obtain ⟨c₁, c₂, rfl, rfl, rfl⟩ := split_of_planFree hbefore hafter rfl heq.symm
  rcases hcalls.write_of_fetched with ⟨rfl, skips, approved⟩ | ⟨reply, time, rfl, needed⟩
  · constructor
    · -- a write could only be found after the one place, where there is none
      rintro ⟨plan, reply, time, rest, hrest⟩
      rw [List.nil_append] at hrest
      have hfree := hafter (.ofCall (.updateInstallPlan key.ns plan) reply time) (by simp [hrest])
      cases hfree
    · rintro (hmode | hpending)
      · exact absurd hmode (skipsApproved_iff.mp skips)
      · rw [approved] at hpending
        cases hpending
  · refine ⟨fun _ => ?_, fun _ => ⟨_, reply, time, after', rfl⟩⟩
    by_cases skips : run.skipsApproved = true
    · exact .inr (by simpa using fun approved => needed ⟨skips, approved⟩)
    · exact .inl (by simpa [skipsApproved_iff] using skips)

/-- **The approval of a plan.**  Whatever the cluster answers, an install writes a plan once at
most.  What it writes is the plan that it fetched by the call before, approved and otherwise as it
was; a plan that it fetched is written by the next call exactly when the install is a new one or
the plan is not approved; and nothing else that the install changes in the cluster is a plan. -/
theorem carryOut_approval (h : Handler Platform σ) (poll : Poll) (run : InstallRun)
    (s : InstallState) (now : Duration) (x : σ) :
    let log := trace h (carryOut poll run s) now x
    (log.filter Event.writesPlan).length ≤ 1 ∧
    (∀ before after ns plan reply start,
      log = before ++ .ofCall (.updateInstallPlan ns plan) reply start :: after →
      ∃ earlier key fetched time,
        before = earlier ++ [.ofCall (.getInstallPlan key) (.ok fetched) time] ∧ ns = key.ns ∧
        plan = { fetched with spec := { fetched.spec with approved := true } }) ∧
    (∀ before after key fetched start,
      log = before ++ .ofCall (.getInstallPlan key) (.ok fetched) start :: after →
      ((∃ plan reply time rest,
          after = .ofCall (.updateInstallPlan key.ns plan) reply time :: rest) ↔
        run.mode = .install ∨ fetched.spec.approved = false)) ∧
    (∀ e ∈ log, e.isWrite = true →
      (∃ key, e.Asks (.createOperatorGroup key)) ∨
      (∃ subscription, e.Asks (.createSubscription subscription)) ∨
      ∃ ns plan, e.Asks (.updateInstallPlan ns plan)) := by
  intro log
  have hc : Course h poll run s now x log _ := runs_carryOut (runs_self h _ now x)
  have hone : OneApproval run log := hc.oneApproval
  refine ⟨hone.length_writes_le, ?_, ?_, ?_⟩
  · intro before after ns plan reply start hlog
    rw [hlog] at hone
    exact hone.fetched_of_write
  · intro before after key fetched start hlog
    rw [hlog] at hone
    exact hone.write_iff
  · intro e he hwrite
    obtain ⟨t, call, -, hcall, reply, start, rfl⟩ := hc.stepCall he
    rcases hcall.isWrite hwrite with ⟨key, rfl⟩ | ⟨subscription, rfl⟩ | ⟨ns, plan, rfl⟩
    · exact .inl ⟨key, reply, start, rfl⟩
    · exact .inr (.inl ⟨subscription, reply, start, rfl⟩)
    · exact .inr (.inr ⟨ns, plan, reply, start, rfl⟩)

end Install

end Provisioner
