import Provisioner.Poll
import Provisioner.Proofs.Program.Interpret
/-!
# Sleeping and not sleeping

`pauses` is how long a program sleeps when it is run, one length for each sleep.  A run without any
is at once: it takes the time of its answers and no other.  Such runs are put together as programs
are, and a wait is one of them when its first evaluation gives a value.
-/

namespace Provisioner.Program

variable {I : Interface} {σ ε ε' α β : Type} {h : Handler I σ} {now mid : Duration} {s t : σ}
  {log l₁ l₂ : List (Event I)}

/-- The lengths of the sleeps of a program when it is run, in order. -/
def pauses (h : Handler I σ) : Program I ε α → Duration → σ → List Duration
  | .done _, _, _ | .fail _, _, _ | .stall, _, _ => []
  | .ask op next, now, s =>
    let turn := h op now s
    pauses h (next turn.reply) (now + turn.took) turn.state
  | .clock next, now, s => pauses h (next now) now s
  | .sleep length next, now, s => length :: pauses h next (now + length) s

lemma pauses_bind (h : Handler I σ) (p : Program I ε α) (f : α → Program I ε β) (now : Duration)
    (s : σ) :
    pauses h (p.bind f) now s = pauses h p now s ++
      match run h p now s with
      | ⟨some (.ok value), mid, t⟩ => pauses h (f value) mid t
      | _ => [] := by
  induction p generalizing now s with
  | done | fail | stall => rfl
  | ask op next ih => exact ih _ _ _
  | clock next ih => exact ih _ _ _
  | sleep length next ih => exact congrArg _ (ih _ _)

lemma pauses_mapError (h : Handler I σ) (f : ε → ε') (p : Program I ε α) (now : Duration) (s : σ) :
    pauses h (p.mapError f) now s = pauses h p now s := by
  induction p generalizing now s with
  | done | fail | stall => rfl
  | ask op next ih => exact ih _ _ _
  | clock next ih => exact ih _ _ _
  | sleep length next ih => exact congrArg _ (ih _ _)

/-- The program asks for the operations of `log` and gets to `o`, and does not sleep. -/
structure RunsAtOnce (h : Handler I σ) (p : Program I ε α) (now : Duration) (s : σ)
    (log : List (Event I)) (o : Outcome σ ε α) : Prop extends Runs h p now s log o where
  pauses_eq : pauses h p now s = []

variable {p : Program I ε α} {o : Outcome σ ε α}

lemma runsAtOnce_done (h : Handler I σ) (value : α) (now : Duration) (s : σ) :
    RunsAtOnce h (.done value : Program I ε α) now s [] ⟨some (.ok value), now, s⟩ :=
  ⟨⟨rfl, rfl⟩, rfl⟩

lemma runsAtOnce_ofExcept (h : Handler I σ) (value : Except ε α) (now : Duration) (s : σ) :
    RunsAtOnce h (ofExcept value) now s [] ⟨some value, now, s⟩ := by
  cases value <;> exact ⟨⟨rfl, rfl⟩, rfl⟩

lemma RunsAtOnce.ask {op : I.Op} {next : I.Reply op → Program I ε α}
    (hnext : RunsAtOnce h (next (h op now s).reply) (now + (h op now s).took) (h op now s).state
      log o) :
    RunsAtOnce h (.ask op next) now s (⟨op, (h op now s).reply, now⟩ :: log) o :=
  ⟨runs_ask_iff.mpr ⟨log, rfl, hnext.toRuns⟩, hnext.pauses_eq⟩

lemma RunsAtOnce.clock {next : Duration → Program I ε α}
    (hnext : RunsAtOnce h (next now) now s log o) : RunsAtOnce h (.clock next) now s log o :=
  ⟨runs_clock_iff.mpr hnext.toRuns, hnext.pauses_eq⟩

lemma RunsAtOnce.mapError (hp : RunsAtOnce h p now s log o) (f : ε → ε') :
    RunsAtOnce h (p.mapError f) now s log (o.mapError f) :=
  ⟨runs_mapError_iff.mpr ⟨o, hp.toRuns, rfl⟩, by rw [pauses_mapError, hp.pauses_eq]⟩

lemma RunsAtOnce.bind {f : α → Program I ε β} {value : α} {o : Outcome σ ε β}
    (hp : RunsAtOnce h p now s l₁ ⟨some (.ok value), mid, t⟩)
    (hf : RunsAtOnce h (f value) mid t l₂ o) : RunsAtOnce h (p.bind f) now s (l₁ ++ l₂) o := by
  refine ⟨hp.toRuns.bind_ok hf.toRuns, ?_⟩
  rw [pauses_bind, hp.pauses_eq, hp.run_eq, List.nil_append]
  exact hf.pauses_eq

/-! ### Waits -/

variable {poll : Poll} {description : String} {check : Program I Error (Option α)} {value : α}
  {finish : Duration}

/-- A wait that ends makes one evaluation at least. -/
lemma Runs.rounds_ne_zero {o : Outcome σ Error α}
    (hr : Runs h (poll.waitFor description check) now s log o) (ended : o.result ≠ none) :
    poll.rounds ≠ 0 := by
  intro hzero
  have hwait := runs_clock_iff.mp hr
  rw [hzero, Poll.waitRounds] at hwait
  obtain ⟨-, rfl⟩ := runs_stall_iff.mp hwait
  exact ended rfl

/-- A wait whose first evaluation gives a value is over with it. -/
lemma RunsAtOnce.waitFor
    (hcheck : RunsAtOnce h check now s log ⟨some (.ok (some value)), finish, t⟩)
    (hrounds : poll.rounds ≠ 0) :
    RunsAtOnce h (poll.waitFor description check) now s log ⟨some (.ok value), finish, t⟩ := by
  obtain ⟨n, hn⟩ := Nat.exists_eq_succ_of_ne_zero hrounds
  refine RunsAtOnce.clock ?_
  rw [hn, Poll.waitRounds, bind_eq, ← List.append_nil log]
  exact hcheck.bind (runsAtOnce_done h value finish t)

end Provisioner.Program
