import Provisioner.Proofs.Install.Course
import Provisioner.Proofs.Program.Bounds
/-!
# How long an install takes

The step out of a state makes one wait at most, and a few single calls where it makes none.  What is
left from a state on is no less than its step and what is left after it, since every step leads to a
state of lower rank; so an install is bounded by what is left from the state that it begins in.
-/

namespace Provisioner

namespace InstallState

/-- Waits of the step out of a state. -/
def waits : InstallState → Nat
  | subscriptionCreated | installPlanApproved | awaitingCompletion _ => 1
  | start | awaitingInstallPlan _ | succeeded | failed => 0

/-- Waits from a state on, at most. -/
def waitsLeft : InstallState → Nat
  | start | subscriptionCreated => 3
  | awaitingInstallPlan _ | installPlanApproved => 2
  | awaitingCompletion _ => 1
  | succeeded | failed => 0

/-- Calls that the step out of a state makes once, at most. -/
def calls : InstallState → Nat
  | start => 3
  | awaitingInstallPlan _ => 2
  | subscriptionCreated | installPlanApproved | awaitingCompletion _ | succeeded | failed => 0

/-- Calls from a state on that are made once, at most. -/
def callsLeft : InstallState → Nat
  | start => 5
  | subscriptionCreated | awaitingInstallPlan _ => 2
  | installPlanApproved | awaitingCompletion _ | succeeded | failed => 0

variable {s t : InstallState}

lemma waits_le_waitsLeft (s : InstallState) : s.waits ≤ s.waitsLeft := by
  cases s <;> simp [waits, waitsLeft]

lemma calls_le_callsLeft (s : InstallState) : s.calls ≤ s.callsLeft := by
  cases s <;> simp [calls, callsLeft]

lemma waits_add_waitsLeft_le (hrank : t.rank < s.rank) : s.waits + t.waitsLeft ≤ s.waitsLeft := by
  cases s <;> cases t <;> simp [rank, waits, waitsLeft] at hrank ⊢

lemma calls_add_callsLeft_le (hrank : t.rank < s.rank) : s.calls + t.callsLeft ≤ s.callsLeft := by
  cases s <;> cases t <;> simp [rank, calls, callsLeft] at hrank ⊢

lemma waitsLeft_le (s : InstallState) : s.waitsLeft ≤ 3 := by cases s <;> simp [waitsLeft]

lemma callsLeft_le (s : InstallState) : s.callsLeft ≤ 5 := by cases s <;> simp [callsLeft]

lemma rank_le (s : InstallState) : s.rank ≤ 5 := by cases s <;> simp [rank]

end InstallState

open Program

variable {σ α : Type} {h : Handler Platform σ} {poll : Poll} {run : InstallRun} {s : InstallState}
  {now : Duration} {x : σ} {log : List (Event Platform)} {o : Outcome σ Error Unit}

/-! ## Calls and waits -/

lemma endsWithin_perform (instant : h.Instant) (call : Call) : EndsWithin h 0 call.perform :=
  endsWithin_ask (I := Platform) instant fun reply => endsWithin_ofExcept h reply 0

lemma asksAtMost_perform (h : Handler Platform σ) (call : Call) : AsksAtMost h 1 call.perform :=
  asksAtMost_ask (I := Platform) fun reply => asksAtMost_ofExcept h reply 0

lemma endsWithin_watch (instant : h.Instant) (ticks : poll.interval ≠ 0) (description : String)
    (call : Call) (read : call.Answer → Except Error (Option α)) :
    EndsWithin h poll.span (poll.watch description call read) :=
  endsWithin_waitFor ticks description
    ((endsWithin_perform instant call).bind fun answer => endsWithin_ofExcept h (read answer) 0)

lemma asksAtMost_watch (h : Handler Platform σ) (ticks : poll.interval ≠ 0) (description : String)
    (call : Call) (read : call.Answer → Except Error (Option α)) :
    AsksAtMost h (poll.ticks + 1) (poll.watch description call read) := by
  have hlook := (asksAtMost_perform h call).bind fun answer =>
    asksAtMost_ofExcept h (read answer) 0
  rw [← Nat.mul_one (poll.ticks + 1)]
  exact hlook.waitFor ticks description

namespace Install

/-! ## One step -/

lemma endsWithin_createSubscription (instant : h.Instant) (request : InstallRequest) :
    EndsWithin h 0 (createSubscription request) := by
  have hgroup : EndsWithin h 0 (ensureOperatorGroup ⟨request.ns, request.operatorGroup⟩) := by
    refine (endsWithin_perform instant _).bind (n := 0) fun found => ?_
    cases found with
    | some group => exact endsWithin_done h () 0
    | none => exact (endsWithin_perform instant _).bind fun _ => endsWithin_done h () 0
  refine hgroup.bind (n := 0) fun _ => ?_
  exact ((endsWithin_perform instant _).mapError _).bind fun _ => endsWithin_done h () 0

lemma asksAtMost_createSubscription (h : Handler Platform σ) (request : InstallRequest) :
    AsksAtMost h 3 (createSubscription request) := by
  have hgroup : AsksAtMost h 2 (ensureOperatorGroup ⟨request.ns, request.operatorGroup⟩) := by
    refine (asksAtMost_perform h _).bind (n := 1) fun found => ?_
    cases found with
    | some group => exact asksAtMost_done h () 1
    | none => exact (asksAtMost_perform h _).bind fun _ => asksAtMost_done h () 0
  refine hgroup.bind (n := 1) fun _ => ?_
  exact ((asksAtMost_perform h _).mapError _).bind fun _ => asksAtMost_done h () 0

lemma endsWithin_approveInstallPlan (instant : h.Instant) (key : ObjectKey) (skips : Bool) :
    EndsWithin h 0 (approveInstallPlan key skips) := by
  refine ((endsWithin_perform instant _).mapError _).bind (n := 0) fun plan => ?_
  split
  · exact endsWithin_done h false 0
  · exact (endsWithin_perform instant _).bind fun _ => endsWithin_done h true 0

lemma asksAtMost_approveInstallPlan (h : Handler Platform σ) (key : ObjectKey) (skips : Bool) :
    AsksAtMost h 2 (approveInstallPlan key skips) := by
  refine ((asksAtMost_perform h _).mapError _).bind (n := 1) fun plan => ?_
  split
  · exact asksAtMost_done h false 1
  · exact (asksAtMost_perform h _).bind fun _ => asksAtMost_done h true 0

lemma endsWithin_advance (instant : h.Instant) (ticks : poll.interval ≠ 0) (run : InstallRun)
    (s : InstallState) : EndsWithin h (s.waits * poll.span) (advance poll run s) := by
  cases s with
  | start =>
    rw [advance]
    split
    · exact endsWithin_fail h _ _
    · rename_i request _
      exact ((endsWithin_createSubscription instant request).bind fun _ =>
        endsWithin_done h _ 0).mono (Nat.zero_le _)
  | subscriptionCreated =>
    rw [advance, InstallState.waits, Nat.one_mul, awaitInstallPlan_eq]
    exact ((endsWithin_watch instant ticks _ _ _).mapError _).bind fun _ => endsWithin_done h _ 0
  | awaitingInstallPlan plan =>
    exact ((endsWithin_approveInstallPlan instant _ _).bind fun _ =>
      endsWithin_done h _ 0).mono (Nat.zero_le _)
  | installPlanApproved =>
    rw [advance, InstallState.waits, Nat.one_mul, awaitInstalledVersion_eq]
    split
    · refine EndsWithin.bind (n := 0) ?_ fun _ => endsWithin_done h _ 0
      exact (endsWithin_watch instant ticks _ _ _).bind fun _ => endsWithin_done h _ 0
    · exact endsWithin_done h _ _
  | awaitingCompletion version =>
    rw [advance, InstallState.waits, Nat.one_mul, awaitVersionSucceeded_eq]
    exact (endsWithin_watch instant ticks _ _ _).bind fun _ => endsWithin_done h _ 0
  | succeeded => exact endsWithin_done h _ _
  | failed => exact endsWithin_done h _ _

lemma asksAtMost_advance (h : Handler Platform σ) (ticks : poll.interval ≠ 0) (run : InstallRun)
    (s : InstallState) :
    AsksAtMost h (s.waits * (poll.ticks + 1) + s.calls) (advance poll run s) := by
  cases s with
  | start =>
    rw [advance, InstallState.waits, InstallState.calls, Nat.zero_mul, Nat.zero_add]
    split
    · exact asksAtMost_fail h _ _
    · rename_i request _
      exact (asksAtMost_createSubscription h request).bind fun _ => asksAtMost_done h _ 0
  | subscriptionCreated =>
    rw [advance, InstallState.waits, Nat.one_mul, awaitInstallPlan_eq]
    exact ((asksAtMost_watch h ticks _ _ _).mapError _).bind fun _ => asksAtMost_done h _ 0
  | awaitingInstallPlan plan =>
    rw [advance, InstallState.waits, InstallState.calls, Nat.zero_mul, Nat.zero_add]
    exact (asksAtMost_approveInstallPlan h _ _).bind fun _ => asksAtMost_done h _ 0
  | installPlanApproved =>
    rw [advance, InstallState.waits, Nat.one_mul, awaitInstalledVersion_eq]
    split
    · refine AsksAtMost.bind (n := 0) ?_ fun _ => asksAtMost_done h _ 0
      exact (asksAtMost_watch h ticks _ _ _).bind fun _ => asksAtMost_done h _ 0
    · exact asksAtMost_done h _ _
  | awaitingCompletion version =>
    rw [advance, InstallState.waits, Nat.one_mul, awaitVersionSucceeded_eq]
    exact (asksAtMost_watch h ticks _ _ _).bind fun _ => asksAtMost_done h _ 0
  | succeeded => exact asksAtMost_done h _ _
  | failed => exact asksAtMost_done h _ _

/-! ## All steps -/

/-- An install takes no longer than the waits that are left. -/
theorem endsWithin_carryOut (instant : h.Instant) (ticks : poll.interval ≠ 0) (run : InstallRun)
    (s : InstallState) : EndsWithin h (s.waitsLeft * poll.span) (carryOut poll run s) := by
  induction hrank : s.rank using Nat.strongRecOn generalizing s with
  | _ n ih =>
    rw [carryOut]
    split
    · split
      · exact endsWithin_done h () _
      · exact endsWithin_fail h _ _
    · rename_i hs
      have hstep := (endsWithin_advance instant ticks run s).mapError (inPhase run s)
      refine (hstep.bind (n := (s.waitsLeft - s.waits) * poll.span) fun next => ?_).mono ?_
      · have hlower : next.val.rank < s.rank := next.property.resolve_right hs
        have hleft := InstallState.waits_add_waitsLeft_le hlower
        refine (ih next.val.rank (hrank ▸ hlower) next.val rfl).mono ?_
        exact Nat.mul_le_mul_right poll.span (by omega)
      · rw [← Nat.add_mul, Nat.add_sub_cancel' s.waits_le_waitsLeft]

/-- An install makes no more calls than the evaluations of the waits that are left, and the single
calls that are. -/
theorem asksAtMost_carryOut (h : Handler Platform σ) (ticks : poll.interval ≠ 0) (run : InstallRun)
    (s : InstallState) :
    AsksAtMost h (s.waitsLeft * (poll.ticks + 1) + s.callsLeft) (carryOut poll run s) := by
  induction hrank : s.rank using Nat.strongRecOn generalizing s with
  | _ n ih =>
    rw [carryOut]
    split
    · split
      · exact asksAtMost_done h () _
      · exact asksAtMost_fail h _ _
    · rename_i hs
      have hstep := (asksAtMost_advance h ticks run s).mapError (inPhase run s)
      refine (hstep.bind (n := (s.waitsLeft - s.waits) * (poll.ticks + 1) +
        (s.callsLeft - s.calls)) fun next => ?_).mono ?_
      · have hlower : next.val.rank < s.rank := next.property.resolve_right hs
        have hwaits := InstallState.waits_add_waitsLeft_le hlower
        have hcalls := InstallState.calls_add_callsLeft_le hlower
        refine (ih next.val.rank (hrank ▸ hlower) next.val rfl).mono ?_
        exact Nat.add_le_add (Nat.mul_le_mul_right _ (by omega)) (by omega)
      · have hwaits : s.waits * (poll.ticks + 1) + (s.waitsLeft - s.waits) * (poll.ticks + 1) =
            s.waitsLeft * (poll.ticks + 1) := by
          rw [← Nat.add_mul, Nat.add_sub_cancel' s.waits_le_waitsLeft]
        have hcalls := s.calls_le_callsLeft
        omega

/-! ## Transitions -/

/-- The install gets from one state to another by `n` steps that succeed. -/
inductive Transits (h : Handler Platform σ) (poll : Poll) (run : InstallRun) :
    Nat → InstallState → Duration → σ → InstallState → Duration → σ → Prop
  | refl (s : InstallState) (now : Duration) (x : σ) : Transits h poll run 0 s now x s now x
  | step {n : Nat} {s t u : InstallState} {now mid later : Duration} {x y z : σ}
      (hs : s.isTerminal = false)
      (made : Program.run h (Install.step poll run s) now x = ⟨some (.ok t), mid, y⟩)
      (rest : Transits h poll run n t mid y u later z) :
      Transits h poll run (n + 1) s now x u later z

/-- The install makes `n` transitions: they lead it to a state from which it goes on without any,
being at an end or breaking down. -/
def MakesTransitions (h : Handler Platform σ) (poll : Poll) (run : InstallRun) (s : InstallState)
    (now : Duration) (x : σ) (n : Nat) : Prop :=
  ∃ t later y, Transits h poll run n s now x t later y ∧
    Program.run h (carryOut poll run s) now x = Program.run h (carryOut poll run t) later y ∧
    (t.isTerminal = true ∨ ∃ e, (Program.run h (step poll run t) later y).result = some (.error e))

lemma endsWithin_step (instant : h.Instant) (ticks : poll.interval ≠ 0) (run : InstallRun)
    (s : InstallState) : EndsWithin h (s.waits * poll.span) (step poll run s) :=
  (endsWithin_advance instant ticks run s).bind fun next => endsWithin_done h next.val 0

/-- Each transition lowers the rank of the state. -/
lemma Transits.add_rank_le {n : Nat} {t : InstallState} {later : Duration} {y : σ}
    (ht : Transits h poll run n s now x t later y) : n + t.rank ≤ s.rank := by
  induction ht with
  | refl => omega
  | step hs made rest ih =>
    cases runs_step hs ⟨rfl, made⟩ with
    | onward progress =>
      have hlower := progress.rank_lt
      omega

lemma MakesTransitions.le_rank {n : Nat} (hn : MakesTransitions h poll run s now x n) :
    n ≤ s.rank := by
  obtain ⟨t, later, y, htransits, -⟩ := hn
  have hle := htransits.add_rank_le
  omega

lemma exists_makesTransitions (instant : h.Instant) (ticks : poll.interval ≠ 0)
    (run : InstallRun) (s : InstallState) (now : Duration) (x : σ) :
    ∃ n, MakesTransitions h poll run s now x n := by
  -- by the rank of the state, which every step lowers
  induction hrank : s.rank using Nat.strongRecOn generalizing s now x with
  | _ k ih =>
    cases hs : s.isTerminal with
    | true => exact ⟨0, s, now, x, .refl s now x, rfl, .inl hs⟩
    | false =>
      obtain ⟨hended, -⟩ := endsWithin_step instant ticks run s now x
      rcases hmade : Program.run h (step poll run s) now x with ⟨_ | e | t, mid, y⟩
      · rw [hmade] at hended
        exact absurd rfl hended
      · exact ⟨0, s, now, x, .refl s now x, rfl, .inr ⟨e, by rw [hmade]⟩⟩
      · have hlower : t.rank < s.rank := by
          cases runs_step hs ⟨rfl, hmade⟩ with
          | onward progress => exact progress.rank_lt
        obtain ⟨n, u, later, z, htransits, hrun, hlast⟩ :=
          ih t.rank (hrank ▸ hlower) t mid y rfl
        refine ⟨n + 1, u, later, z, .step hs hmade htransits, ?_, hlast⟩
        rw [← hrun, carryOut_eq_step poll run hs, run_bind, run_mapError, hmade]
        rfl

end Install

end Provisioner
