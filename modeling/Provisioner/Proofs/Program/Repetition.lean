import Mathlib.Algebra.BigOperators.Group.Finset.Basic
import Provisioner.Proofs.Program.Bounds
import Provisioner.Proofs.Program.Pauses
/-!
# A program that is run again and again

A wait evaluates its condition again and again, and a retried operation is attempted again and
again, each time a fixed pause after the time before.  `Repeated` is such a sequence of runs: run
`k` begins where `beginning k` says, and `outcome k` is what it comes to.  Nothing in it says when
to stop.  `MakesUp` says that another program is the first so many of these runs and nothing else,
with one pause between each two of them; a loop is described by which run is its last.
-/

namespace Provisioner

open Program

/-- A point of a run: the time, and the state of the handler. -/
structure Moment (σ : Type) where
  time : Duration
  state : σ

/-- A program that is run again and again from a point on, each time a pause after the run before
has ended. -/
structure Repeated (I : Interface) (σ ε α : Type) where
  /-- What answers the operations. -/
  handler : Handler I σ
  /-- What is run. -/
  program : Program I ε α
  /-- Time from the end of a run to the next one. -/
  pause : Duration
  /-- When the first run begins. -/
  start : Duration
  /-- The state of the handler then. -/
  state : σ

/-- An outcome whose value is read, which may turn out to be an error. -/
def Outcome.read {σ ε α β : Type} (g : α → Except ε β) (o : Outcome σ ε α) : Outcome σ ε β :=
  ⟨o.result.map (·.bind g), o.finish, o.state⟩

namespace Program

variable {I : Interface} {σ ε α β : Type}

/-! ### Reading the value of a program -/

lemma run_bind_ofExcept (h : Handler I σ) (p : Program I ε α) (g : α → Except ε β)
    (now : Duration) (s : σ) :
    run h (p.bind fun value => ofExcept (g value)) now s = (run h p now s).read g := by
  rw [run_bind]
  rcases run h p now s with ⟨_ | error | value, finish, t⟩
  · rfl
  · rfl
  · cases hread : g value <;> simp [hread, ofExcept, run, Outcome.read, Except.bind]

/-- Reading a value asks for nothing. -/
lemma trace_bind_ofExcept (h : Handler I σ) (p : Program I ε α) (g : α → Except ε β)
    (now : Duration) (s : σ) :
    trace h (p.bind fun value => ofExcept (g value)) now s = trace h p now s := by
  rw [trace_bind]
  rcases run h p now s with ⟨_ | error | value, finish, t⟩
  · exact List.append_nil _
  · exact List.append_nil _
  · cases hread : g value <;> simp [hread, ofExcept, trace]

lemma pauses_bind_ofExcept (h : Handler I σ) (p : Program I ε α) (g : α → Except ε β)
    (now : Duration) (s : σ) :
    pauses h (p.bind fun value => ofExcept (g value)) now s = pauses h p now s := by
  rw [pauses_bind]
  rcases run h p now s with ⟨_ | error | value, finish, t⟩
  · exact List.append_nil _
  · exact List.append_nil _
  · cases hread : g value <;> simp [hread, ofExcept, pauses]

end Program

namespace Repeated

variable {I : Interface} {σ ε ε' α β γ : Type}

/-- Where run `k` begins. -/
def beginning (r : Repeated I σ ε α) : Nat → Moment σ
  | 0 => ⟨r.start, r.state⟩
  | k + 1 =>
    let o := run r.handler r.program (r.beginning k).time (r.beginning k).state
    ⟨o.finish + r.pause, o.state⟩

/-- What run `k` comes to. -/
def outcome (r : Repeated I σ ε α) (k : Nat) : Outcome σ ε α :=
  run r.handler r.program (r.beginning k).time (r.beginning k).state

/-- The operations that run `k` asks for. -/
def calls (r : Repeated I σ ε α) (k : Nat) : List (Event I) :=
  trace r.handler r.program (r.beginning k).time (r.beginning k).state

/-- The lengths of the sleeps within run `k`. -/
def sleeps (r : Repeated I σ ε α) (k : Nat) : List Duration :=
  pauses r.handler r.program (r.beginning k).time (r.beginning k).state

/-- How long run `k` takes. -/
def took (r : Repeated I σ ε α) (k : Nat) : Duration := (r.outcome k).finish - (r.beginning k).time

@[simp] lemma beginning_zero (r : Repeated I σ ε α) : r.beginning 0 = ⟨r.start, r.state⟩ := rfl

lemma beginning_succ (r : Repeated I σ ε α) (k : Nat) :
    r.beginning (k + 1) = ⟨(r.outcome k).finish + r.pause, (r.outcome k).state⟩ := rfl

/-! ### When the runs are -/

lemma beginning_le_finish (r : Repeated I σ ε α) (k : Nat) :
    (r.beginning k).time.nanoseconds ≤ (r.outcome k).finish.nanoseconds :=
  le_finish r.handler r.program _ _

lemma finish_eq (r : Repeated I σ ε α) (k : Nat) :
    (r.outcome k).finish.nanoseconds =
      (r.beginning k).time.nanoseconds + (r.took k).nanoseconds := by
  have hle := r.beginning_le_finish k
  rw [took, Duration.nanoseconds_sub]
  omega

/-- Before run `k` there were `k` pauses at least. -/
lemma start_add_le_beginning (r : Repeated I σ ε α) (k : Nat) :
    r.start.nanoseconds + k * r.pause.nanoseconds ≤ (r.beginning k).time.nanoseconds := by
  induction k with
  | zero => simp
  | succ k ih =>
    have hle := r.beginning_le_finish k
    rw [beginning_succ, Duration.nanoseconds_add, Nat.succ_mul]
    omega

/-- Run `k` ends once the runs up to it and the pauses between them are over. -/
lemma finish_eq_sum (r : Repeated I σ ε α) (k : Nat) :
    (r.outcome k).finish.nanoseconds =
      r.start.nanoseconds + (∑ i ∈ Finset.range (k + 1), (r.took i).nanoseconds) +
        k * r.pause.nanoseconds := by
  induction k with
  | zero =>
    have hfinish := r.finish_eq 0
    simpa using hfinish
  | succ k ih =>
    have hbegin : (r.beginning (k + 1)).time.nanoseconds =
        (r.outcome k).finish.nanoseconds + r.pause.nanoseconds := rfl
    rw [finish_eq, hbegin, ih, Finset.sum_range_succ _ (k + 1), Nat.succ_mul]
    omega

/-- Runs that take no time follow each other at the length of the pause. -/
lemma finish_of_instant {r : Repeated I σ ε α} (instant : ∀ k, r.took k = 0) (k : Nat) :
    (r.outcome k).finish.nanoseconds = r.start.nanoseconds + k * r.pause.nanoseconds := by
  rw [finish_eq_sum]
  simp [instant]

/-! ### From the second run on -/

/-- The runs after the first one. -/
def later (r : Repeated I σ ε α) : Repeated I σ ε α :=
  { r with start := (r.beginning 1).time, state := (r.beginning 1).state }

lemma beginning_later (r : Repeated I σ ε α) (k : Nat) :
    r.later.beginning k = r.beginning (k + 1) := by
  induction k with
  | zero => rfl
  | succ k ih =>
    have hrun : r.later.outcome k = r.outcome (k + 1) := by
      simp only [outcome, ih]
      rfl
    rw [beginning_succ, hrun]
    rfl

lemma outcome_later (r : Repeated I σ ε α) (k : Nat) :
    r.later.outcome k = r.outcome (k + 1) := by
  simp only [outcome, beginning_later]
  rfl

lemma calls_later (r : Repeated I σ ε α) (k : Nat) : r.later.calls k = r.calls (k + 1) := by
  simp only [calls, beginning_later]
  rfl

lemma sleeps_later (r : Repeated I σ ε α) (k : Nat) : r.later.sleeps k = r.sleeps (k + 1) := by
  simp only [sleeps, beginning_later]
  rfl

/-! ### Programs that are made up of such runs -/

/-- The program is the runs `0, …, last`, with one pause between each two of them and none besides,
and it ends with the last one of them. -/
structure MakesUp (r : Repeated I σ ε α) (last : Nat) (p : Program I ε' β)
    (result : Option (Except ε' β)) : Prop where
  calls_eq : trace r.handler p r.start r.state = (List.range (last + 1)).flatMap r.calls
  pauses_eq : pauses r.handler p r.start r.state =
    [r.pause].intercalate ((List.range (last + 1)).map r.sleeps)
  run_eq : run r.handler p r.start r.state =
    ⟨result, (r.outcome last).finish, (r.outcome last).state⟩

variable {r : Repeated I σ ε α} {p p' : Program I ε' β} {result : Option (Except ε' β)}

/-- A program that is the first run and nothing else. -/
lemma MakesUp.first (hcalls : trace r.handler p r.start r.state = r.calls 0)
    (hpauses : pauses r.handler p r.start r.state = r.sleeps 0)
    (hrun : run r.handler p r.start r.state =
      ⟨result, (r.outcome 0).finish, (r.outcome 0).state⟩) :
    r.MakesUp 0 p result where
  calls_eq := by simpa using hcalls
  pauses_eq := by simpa [List.intercalate] using hpauses
  run_eq := hrun

/-- A program that makes the first run, pauses, and goes on as a program that is made up of the
runs after it. -/
lemma MakesUp.next {last : Nat} (hp' : r.later.MakesUp last p' result)
    (hcalls : trace r.handler p r.start r.state =
      r.calls 0 ++ trace r.handler p' r.later.start r.later.state)
    (hpauses : pauses r.handler p r.start r.state =
      r.sleeps 0 ++ r.pause :: pauses r.handler p' r.later.start r.later.state)
    (hrun : run r.handler p r.start r.state = run r.handler p' r.later.start r.later.state) :
    r.MakesUp (last + 1) p result where
  calls_eq := by
    have hrest : (List.range (last + 1)).flatMap r.later.calls =
        (List.range (last + 1)).flatMap fun k => r.calls (k + 1) :=
      congrArg (List.flatMap · _) (funext r.calls_later)
    have hlater := hp'.calls_eq
    rw [hrest] at hlater
    rw [hcalls, List.range_succ_eq_map, List.flatMap_cons, List.flatMap_map]
    exact congrArg (r.calls 0 ++ ·) hlater
  pauses_eq := by
    have hrest : (List.range (last + 1)).map r.later.sleeps =
        (List.range (last + 1)).map fun k => r.sleeps (k + 1) :=
      congrArg (List.map · _) (funext r.sleeps_later)
    have hlater := hp'.pauses_eq
    rw [hrest] at hlater
    -- there is a run after the first one, so a pause stands between the two
    have hne : (List.range (last + 1)).map (fun k => r.sleeps (k + 1)) ≠ [] := by simp
    rw [hpauses, List.range_succ_eq_map, List.map_cons, List.map_map]
    refine Eq.trans ?_ (List.intercalate_cons_of_ne_nil hne).symm
    rw [List.append_assoc, List.singleton_append]
    exact congrArg (r.sleeps 0 ++ r.pause :: ·) hlater
  run_eq := by
    have hlater := hp'.run_eq
    rw [outcome_later] at hlater
    exact hrun.trans hlater

/-! ### Runs whose values are read -/

/-- The same runs, each with its value read. -/
def reading (r : Repeated I σ ε α) (g : α → Except ε γ) : Repeated I σ ε γ :=
  { r with program := r.program.bind fun value => ofExcept (g value) }

lemma beginning_reading (r : Repeated I σ ε α) (g : α → Except ε γ) (k : Nat) :
    (r.reading g).beginning k = r.beginning k := by
  induction k with
  | zero => rfl
  | succ k ih =>
    have hrun : (r.reading g).outcome k = (r.outcome k).read g := by
      simp only [outcome, ih]
      exact run_bind_ofExcept r.handler r.program g _ _
    rw [beginning_succ, hrun]
    rfl

lemma outcome_reading (r : Repeated I σ ε α) (g : α → Except ε γ) (k : Nat) :
    (r.reading g).outcome k = (r.outcome k).read g := by
  simp only [outcome, beginning_reading]
  exact run_bind_ofExcept r.handler r.program g _ _

lemma calls_reading (r : Repeated I σ ε α) (g : α → Except ε γ) (k : Nat) :
    (r.reading g).calls k = r.calls k := by
  simp only [calls, beginning_reading]
  exact trace_bind_ofExcept r.handler r.program g _ _

lemma sleeps_reading (r : Repeated I σ ε α) (g : α → Except ε γ) (k : Nat) :
    (r.reading g).sleeps k = r.sleeps k := by
  simp only [sleeps, beginning_reading]
  exact pauses_bind_ofExcept r.handler r.program g _ _

lemma took_reading (r : Repeated I σ ε α) (g : α → Except ε γ) (k : Nat) :
    (r.reading g).took k = r.took k := by
  simp only [took, outcome_reading, beginning_reading]
  rfl

/-- What is made up of the runs with their values read is made up of the runs. -/
lemma MakesUp.of_reading {g : α → Except ε γ} {last : Nat}
    (hp : (r.reading g).MakesUp last p result) : r.MakesUp last p result := by
  obtain ⟨hcalls, hpauses, hrun⟩ := hp
  rw [show (r.reading g).calls = r.calls from funext (r.calls_reading g)] at hcalls
  rw [show (r.reading g).sleeps = r.sleeps from funext (r.sleeps_reading g)] at hpauses
  rw [outcome_reading] at hrun
  exact ⟨hcalls, hpauses, hrun⟩

end Repeated

end Provisioner
