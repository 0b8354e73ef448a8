import Mathlib.Order.Bounds.Defs
import Provisioner.Proofs.Program.Repetition
/-!
# The course of a wait

A wait evaluates its condition until one evaluation is the last: it gives a value or an error, or
the deadline is reached when it ends.  The evaluations after that are never made, and the wait ends
when its last evaluation does.  `Waits` says so of a program, for all evaluations that a condition
can have; `wait_course` is the statement for both kinds of waits.
-/

namespace Provisioner.Poll

open Program

variable {I : Interface} {σ α β : Type}

/-- The evaluations of a condition from a point on, an interval apart. -/
def evaluations (poll : Poll) (h : Handler I σ) (check : Program I Error β) (now : Duration)
    (s : σ) : Repeated I σ Error β :=
  ⟨h, check, poll.interval, now, s⟩

/-- An evaluation after which a wait that began at `start` makes no other: it gives a value or an
error, or does not end, or the deadline is reached when it ends. -/
def IsLast (poll : Poll) (start : Duration) (o : Outcome σ Error (Option α)) : Prop :=
  o.result ≠ some (.ok none) ∨ poll.timeout ≤ o.finish - start

/-- What a wait comes to by its last evaluation: the value or the error that it gives, whenever it
does, and else that the time is over. -/
def closing (poll : Poll) (description : String) :
    Option (Except Error (Option α)) → Option (Except Error α)
  | some (.ok (some value)) => some (.ok value)
  | some (.ok none) => some (.error (.timeout description poll.timeout))
  | some (.error e) => some (.error e)
  | none => none

/-- The evaluation of a number is within what is followed: all of them are when they are apart, and
so many as the patience says when they are not. -/
def Follows (poll : Poll) (k : Nat) : Prop := poll.interval = 0 → k < poll.patience

/-- The program waits for what the runs of `r`, read by `reading`, come to give. -/
structure Waits (poll : Poll) (description : String) (r : Repeated I σ Error β)
    (reading : β → Except Error (Option α)) (p : Program I Error α) : Prop where
  /-- The first evaluation that can be the last is, and decides how the wait ends. -/
  closes : ∀ K, IsLeast {k | poll.IsLast r.start ((r.outcome k).read reading)} K →
    poll.Follows K →
    r.MakesUp K p (poll.closing description ((r.outcome K).read reading).result)
  /-- Without such an evaluation there is no end. -/
  endless : (∀ k, ¬ poll.IsLast r.start ((r.outcome k).read reading)) →
    (run r.handler p r.start r.state).result = none
  /-- A condition that takes no time and never holds is evaluated at the start and after each of
  the intervals that reach the deadline. -/
  expires : poll.interval ≠ 0 → (∀ k, r.took k = 0) →
    (∀ k, ((r.outcome k).read reading).result = some (.ok none)) →
    r.MakesUp poll.ticks p (some (.error (.timeout description poll.timeout))) ∧
      (r.outcome poll.ticks).finish = r.start + ⟨poll.span⟩

/-! ### The rounds of a wait -/

variable {poll : Poll} {description : String} {h : Handler I σ}
  {check : Program I Error (Option α)} {start now : Duration} {s : σ}

lemma IsLast.ended {o : Outcome σ Error (Option α)} (hlast : poll.IsLast start o)
    (undecided : o.result = some (.ok none)) : poll.timeout ≤ o.finish - start := by
  rcases hlast with hdecided | hover
  · exact absurd undecided hdecided
  · exact hover

/-- An evaluation that is not the last leaves the condition open before the deadline. -/
lemma not_isLast_iff {o : Outcome σ Error (Option α)} :
    ¬ poll.IsLast start o ↔ o.result = some (.ok none) ∧ ¬ poll.timeout ≤ o.finish - start := by
  unfold IsLast
  rw [not_or, not_ne_iff]

/-- A round whose evaluation is the last asks and sleeps as that evaluation does, and ends with
it. -/
lemma makesUp_lastRound (n : Nat) (last : poll.IsLast start (run h check now s)) :
    (poll.evaluations h check now s).MakesUp 0 (poll.waitRounds description check start (n + 1))
      (poll.closing description (run h check now s).result) := by
  rcases hrun : run h check now s with ⟨_ | error | _ | value, finish, t⟩ <;> rw [hrun] at last
  case some.ok.none =>
    have hover := last.ended rfl
    refine .first ?_ ?_ ?_ <;>
      simp [evaluations, Repeated.calls, Repeated.sleeps, Repeated.outcome, Poll.waitRounds,
        trace_bind, pauses_bind, run_bind, hrun, trace, pauses, run, hover, closing]
  all_goals
    refine .first ?_ ?_ ?_ <;>
      simp [evaluations, Repeated.calls, Repeated.sleeps, Repeated.outcome, Poll.waitRounds,
        trace_bind, pauses_bind, run_bind, hrun, trace, pauses, run, closing]

/-- After an evaluation come those that begin an interval later. -/
lemma later_evaluations (poll : Poll) {result : Option (Except Error (Option α))}
    {mid : Duration} {t : σ} (hrun : run h check now s = ⟨result, mid, t⟩) :
    (poll.evaluations h check now s).later = poll.evaluations h check (mid + poll.interval) t := by
  simp [evaluations, Repeated.later, Repeated.beginning, hrun]

/-- A round whose evaluation is not the last pauses for an interval and leaves the rest to the
rounds that are left. -/
lemma makesUp_nextRound {n K : Nat} {mid : Duration} {t : σ} {result : Option (Except Error α)}
    (undecided : run h check now s = ⟨some (.ok none), mid, t⟩)
    (early : ¬ poll.timeout ≤ mid - start)
    (rest : (poll.evaluations h check (mid + poll.interval) t).MakesUp K
      (poll.waitRounds description check start n) result) :
    (poll.evaluations h check now s).MakesUp (K + 1)
      (poll.waitRounds description check start (n + 1)) result := by
  have hlater := later_evaluations poll undecided
  rw [← hlater] at rest
  refine rest.next ?_ ?_ ?_ <;> rw [hlater] <;>
    simp [evaluations, Repeated.calls, Repeated.sleeps, Poll.waitRounds, trace_bind, pauses_bind,
      run_bind, undecided, trace, pauses, run, early]

/-- With so many rounds left, the first evaluation that can be the last is the last. -/
lemma makesUp_waitRounds (description : String) {n K : Nat} (hK : K < n)
    (before : ∀ k < K, ¬ poll.IsLast start ((poll.evaluations h check now s).outcome k))
    (last : poll.IsLast start ((poll.evaluations h check now s).outcome K)) :
    (poll.evaluations h check now s).MakesUp K (poll.waitRounds description check start n)
      (poll.closing description ((poll.evaluations h check now s).outcome K).result) := by
  induction n generalizing now s K with
  | zero => omega
  | succ n ih =>
    cases K with
    | zero => exact makesUp_lastRound n last
    | succ K =>
      obtain ⟨hopen, hearly⟩ := not_isLast_iff.mp (before 0 (Nat.succ_pos K))
      have hfirst : run h check now s = ⟨some (.ok none), (run h check now s).finish,
          (run h check now s).state⟩ := by rw [← hopen]; rfl
      have hlater := later_evaluations poll hfirst
      rw [← Repeated.outcome_later, hlater] at last ⊢
      refine makesUp_nextRound hfirst hearly (ih (by omega) (fun k hk => ?_) last)
      rw [← hlater, Repeated.outcome_later]
      exact before (k + 1) (by omega)

/-- Rounds none of whose evaluations is the last do not end the wait. -/
lemma result_waitRounds_eq_none {n : Nat}
    (before : ∀ k < n, ¬ poll.IsLast start ((poll.evaluations h check now s).outcome k)) :
    (run h (poll.waitRounds description check start n) now s).result = none := by
  induction n generalizing now s with
  | zero => rfl
  | succ n ih =>
    obtain ⟨hopen, hearly⟩ := not_isLast_iff.mp (before 0 (Nat.succ_pos n))
    have hfirst : run h check now s = ⟨some (.ok none), (run h check now s).finish,
        (run h check now s).state⟩ := by rw [← hopen]; rfl
    have hround : run h (poll.waitRounds description check start (n + 1)) now s =
        run h (poll.waitRounds description check start n)
          ((run h check now s).finish + poll.interval) (run h check now s).state := by
      have hearly' : ¬ poll.timeout ≤ (run h check now s).finish - start := hearly
      rw [Poll.waitRounds, bind_eq, run_bind, hfirst]
      simp [run, hearly']
    rw [hround]
    refine ih fun k hk => ?_
    rw [← later_evaluations poll hfirst, Repeated.outcome_later]
    exact before (k + 1) (by omega)

/-! ### The deadline -/

/-- An interval later each, the evaluations get to the deadline. -/
lemma timeout_le_elapsed {condition : Program I Error β} (hp : poll.interval ≠ 0) :
    poll.timeout ≤ ((poll.evaluations h condition now s).outcome poll.ticks).finish - now := by
  have hbegin := (poll.evaluations h condition now s).start_add_le_beginning poll.ticks
  have hfinish := (poll.evaluations h condition now s).beginning_le_finish poll.ticks
  have hspan := timeout_le_span hp
  have hstart : (poll.evaluations h condition now s).start = now := rfl
  have hpause : (poll.evaluations h condition now s).pause = poll.interval := rfl
  rw [hstart, hpause] at hbegin
  rw [span] at hspan
  rw [Duration.le_iff, Duration.nanoseconds_sub]
  omega

lemma isLast_ticks (hp : poll.interval ≠ 0) :
    poll.IsLast now ((poll.evaluations h check now s).outcome poll.ticks) :=
  .inr (timeout_le_elapsed hp)

/-- The first evaluation that can be the last is one for which there are rounds. -/
lemma lt_rounds {K : Nat}
    (first : IsLeast {k | poll.IsLast now ((poll.evaluations h check now s).outcome k)} K)
    (follows : poll.Follows K) : K < poll.rounds := by
  by_cases hp : poll.interval = 0
  · rw [rounds, if_pos hp]
    split
    case isTrue hzero =>
      -- the deadline is reached at once, so no evaluation follows the first
      have hnow : poll.IsLast now ((poll.evaluations h check now s).outcome 0) := by
        refine .inr ?_
        rw [hzero, Duration.le_iff]
        exact Nat.zero_le _
      have hle := first.2 hnow
      omega
    case isFalse => exact follows hp
  · have hticks : poll.IsLast now ((poll.evaluations h check now s).outcome poll.ticks) :=
      isLast_ticks hp
    have hle := first.2 hticks
    rw [rounds_eq hp]
    omega

/-! ### The whole wait -/

/-- A wait is over with the first evaluation that can be the last. -/
lemma makesUp_waitFor (description : String) {K : Nat}
    (first : IsLeast {k | poll.IsLast now ((poll.evaluations h check now s).outcome k)} K)
    (follows : poll.Follows K) :
    (poll.evaluations h check now s).MakesUp K (poll.waitFor description check)
      (poll.closing description ((poll.evaluations h check now s).outcome K).result) := by
  have hbefore : ∀ k < K, ¬ poll.IsLast now ((poll.evaluations h check now s).outcome k) :=
    fun k hk hlast => absurd (first.2 hlast) (by omega)
  have hrounds := makesUp_waitRounds description (lt_rounds first follows) hbefore first.1
  exact ⟨hrounds.calls_eq, hrounds.pauses_eq, hrounds.run_eq⟩

/-- Counting intervals up to the deadline. -/
lemma timeout_le_mul_iff (hp : poll.interval ≠ 0) (k : Nat) :
    poll.timeout.nanoseconds ≤ k * poll.interval.nanoseconds ↔ poll.ticks ≤ k := by
  rw [ticks, ceilDiv_le_iff_le_smul (interval_pos hp), smul_eq_mul, Nat.mul_comm]

/-- Evaluations that take no time and leave the condition open reach the deadline with the last of
the intervals that it takes. -/
lemma isLeast_ticks (hp : poll.interval ≠ 0)
    (instant : ∀ k, (poll.evaluations h check now s).took k = 0)
    (undecided : ∀ k, ((poll.evaluations h check now s).outcome k).result = some (.ok none)) :
    IsLeast {k | poll.IsLast now ((poll.evaluations h check now s).outcome k)} poll.ticks := by
  refine ⟨isLast_ticks hp, fun k hlast => ?_⟩
  have hover := IsLast.ended hlast (undecided k)
  have hfinish : ((poll.evaluations h check now s).outcome k).finish.nanoseconds =
      now.nanoseconds + k * poll.interval.nanoseconds := Repeated.finish_of_instant instant k
  rw [Duration.le_iff, Duration.nanoseconds_sub, hfinish] at hover
  exact (timeout_le_mul_iff hp k).mp (by omega)

variable {reading : β → Except Error (Option α)} {condition : Program I Error β}

/-- What a wait waits for can be read off the values of a condition. -/
lemma waits_reading (poll : Poll) (description : String) (h : Handler I σ)
    (condition : Program I Error β) (reading : β → Except Error (Option α)) (now : Duration)
    (s : σ) :
    poll.Waits description (poll.evaluations h condition now s) reading
      (poll.waitFor description (condition.bind fun value => ofExcept (reading value))) := by
  -- the wait evaluates the condition and reads its value, so it is made up of these evaluations
  have hcourse : ∀ K, IsLeast {k | poll.IsLast now
        (((poll.evaluations h condition now s).outcome k).read reading)} K → poll.Follows K →
      (poll.evaluations h condition now s).MakesUp K
        (poll.waitFor description (condition.bind fun value => ofExcept (reading value)))
        (poll.closing description
          (((poll.evaluations h condition now s).outcome K).read reading).result) := by
    intro K first follows
    simp only [← Repeated.outcome_reading] at first ⊢
    have hmakes : ((poll.evaluations h condition now s).reading reading).MakesUp K _ _ :=
      makesUp_waitFor description first follows
    exact hmakes.of_reading
  refine ⟨hcourse, fun never => ?_, fun hp instant undecided => ?_⟩
  · simp only [← Repeated.outcome_reading] at never
    exact result_waitRounds_eq_none fun k _ => never k
  · have first : IsLeast {k | poll.IsLast now
        (((poll.evaluations h condition now s).outcome k).read reading)} poll.ticks := by
      simp only [← Repeated.outcome_reading, ← Repeated.took_reading _ reading] at undecided instant ⊢
      exact isLeast_ticks hp instant undecided
    have hmakes := hcourse _ first fun hzero => absurd hzero hp
    rw [undecided] at hmakes
    refine ⟨hmakes, ?_⟩
    ext
    rw [Repeated.finish_of_instant instant]
    rfl

/-- **The course of a wait.**  Evaluation `0` of a condition begins with the wait, and every other
one an interval after the end of the one before it.  Whatever the evaluations give and however long
they take, a wait makes those up to the first one that gives a value or an error, or at whose end
the deadline is reached, and ends with it; a value or an error is the result even when the deadline
has passed, and otherwise the time is over.  Without such an evaluation it does not end.  A wait for
a value takes the values of its condition, a wait for a truth takes `true`. -/
theorem wait_course (poll : Poll) (description : String) (h : Handler I σ)
    (check : Program I Error (Option α)) (condition : Program I Error Bool) (now : Duration)
    (s : σ) :
    poll.Waits description (poll.evaluations h check now s) .ok
        (poll.waitFor description check) ∧
      poll.Waits description (poll.evaluations h condition now s)
        (fun holds => .ok (if holds then some () else none))
        (poll.waitUntil description condition) := by
  constructor
  · have hwaits := waits_reading poll description h check .ok now s
    rwa [show (check.bind fun value => ofExcept (.ok value)) = check from bind_done check]
      at hwaits
  · exact waits_reading poll description h condition _ now s

/-- A deadline of 25 is reached with the third interval of 10, and one of 30 as well. -/
example : ({ interval := ⟨10⟩, timeout := ⟨25⟩ } : Poll).ticks = 3 ∧
    ({ interval := ⟨10⟩, timeout := ⟨30⟩ } : Poll).ticks = 3 ∧
    ({ interval := ⟨10⟩, timeout := 0 } : Poll).ticks = 0 := by decide

end Provisioner.Poll
