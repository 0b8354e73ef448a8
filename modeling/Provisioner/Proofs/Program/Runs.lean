import Provisioner.Program.Run
import Mathlib.Tactic.Lemma
/-!
# Runs of composed programs

`Runs h p now s log o` says that the program `p`, started at `now` with its handler in the state
`s`, asks for the operations of `log` and gets to `o`.  A program that is put together from others
runs as they do, one after the other: the lemmas below take such a run apart, one for each way of
putting programs together, so that the proofs about particular programs never look at the tree of
a program again.
-/

namespace Provisioner

namespace Program

variable {I : Interface} {σ ε ε' α β : Type} {h : Handler I σ} {now : Duration} {s : σ}
  {log : List (Event I)}

/-- The program asks for the operations of `log` and gets to `o`. -/
structure Runs (h : Handler I σ) (p : Program I ε α) (now : Duration) (s : σ)
    (log : List (Event I)) (o : Outcome σ ε α) : Prop where
  trace_eq : trace h p now s = log
  run_eq : run h p now s = o

lemma runs_self (h : Handler I σ) (p : Program I ε α) (now : Duration) (s : σ) :
    Runs h p now s (trace h p now s) (run h p now s) := ⟨rfl, rfl⟩

/-! ### One node of the tree -/

lemma runs_done_iff {value : α} {o : Outcome σ ε α} :
    Runs h (.done value) now s log o ↔ log = [] ∧ o = ⟨some (.ok value), now, s⟩ :=
  ⟨fun hr => ⟨hr.trace_eq.symm, hr.run_eq.symm⟩, fun ⟨hl, ho⟩ => ⟨hl.symm, ho.symm⟩⟩

lemma runs_fail_iff {error : ε} {o : Outcome σ ε α} :
    Runs h (.fail error) now s log o ↔ log = [] ∧ o = ⟨some (.error error), now, s⟩ :=
  ⟨fun hr => ⟨hr.trace_eq.symm, hr.run_eq.symm⟩, fun ⟨hl, ho⟩ => ⟨hl.symm, ho.symm⟩⟩

lemma runs_stall_iff {o : Outcome σ ε α} :
    Runs h .stall now s log o ↔ log = [] ∧ o = ⟨none, now, s⟩ :=
  ⟨fun hr => ⟨hr.trace_eq.symm, hr.run_eq.symm⟩, fun ⟨hl, ho⟩ => ⟨hl.symm, ho.symm⟩⟩

lemma runs_ofExcept_iff {value : Except ε α} {o : Outcome σ ε α} :
    Runs h (ofExcept value) now s log o ↔ log = [] ∧ o = ⟨some value, now, s⟩ := by
  cases value with
  | ok value => exact runs_done_iff
  | error error => exact runs_fail_iff

lemma runs_ask_iff {op : I.Op} {next : I.Reply op → Program I ε α} {o : Outcome σ ε α} :
    Runs h (.ask op next) now s log o ↔
      ∃ rest, log = ⟨op, (h op now s).reply, now⟩ :: rest ∧
        Runs h (next (h op now s).reply) (now + (h op now s).took) (h op now s).state rest o := by
  constructor
  · intro hr
    exact ⟨_, hr.trace_eq.symm, ⟨rfl, hr.run_eq⟩⟩
  · rintro ⟨rest, rfl, hr⟩
    exact ⟨by rw [trace, hr.trace_eq], by rw [run, hr.run_eq]⟩

lemma runs_clock_iff {next : Duration → Program I ε α} {o : Outcome σ ε α} :
    Runs h (.clock next) now s log o ↔ Runs h (next now) now s log o :=
  ⟨fun hr => ⟨hr.trace_eq, hr.run_eq⟩, fun hr => ⟨hr.trace_eq, hr.run_eq⟩⟩

lemma runs_sleep_iff {length : Duration} {next : Program I ε α} {o : Outcome σ ε α} :
    Runs h (.sleep length next) now s log o ↔ Runs h next (now + length) s log o :=
  ⟨fun hr => ⟨hr.trace_eq, hr.run_eq⟩, fun hr => ⟨hr.trace_eq, hr.run_eq⟩⟩

/-! ### One program after the other -/

variable {p : Program I ε α} {f : α → Program I ε β}

lemma run_bind (h : Handler I σ) (p : Program I ε α) (f : α → Program I ε β) (now : Duration)
    (s : σ) :
    run h (p.bind f) now s =
      match run h p now s with
      | ⟨some (.ok value), mid, t⟩ => run h (f value) mid t
      | ⟨some (.error error), finish, t⟩ => ⟨some (.error error), finish, t⟩
      | ⟨none, finish, t⟩ => ⟨none, finish, t⟩ := by
  induction p generalizing now s with
  | done | fail | stall => rfl
  | ask op next ih => exact ih _ _ _
  | clock next ih => exact ih _ _ _
  | sleep length next ih => exact ih _ _

lemma trace_bind (h : Handler I σ) (p : Program I ε α) (f : α → Program I ε β) (now : Duration)
    (s : σ) :
    trace h (p.bind f) now s = trace h p now s ++
      match run h p now s with
      | ⟨some (.ok value), mid, t⟩ => trace h (f value) mid t
      | _ => [] := by
  induction p generalizing now s with
  | done | fail | stall => rfl
  | ask op next ih => exact congrArg _ (ih _ _ _)
  | clock next ih => exact ih _ _ _
  | sleep length next ih => exact ih _ _

/-- A run of one program after another: the first one ends with a value and the other goes on with
it, or the first one ends the run. -/
lemma runs_bind {o : Outcome σ ε β} (hr : Runs h (p.bind f) now s log o) :
    (∃ value mid t l₁ l₂, Runs h p now s l₁ ⟨some (.ok value), mid, t⟩ ∧
      Runs h (f value) mid t l₂ o ∧ log = l₁ ++ l₂) ∨
    (∃ error finish t, Runs h p now s log ⟨some (.error error), finish, t⟩ ∧
      o = ⟨some (.error error), finish, t⟩) ∨
    (∃ finish t, Runs h p now s log ⟨none, finish, t⟩ ∧ o = ⟨none, finish, t⟩) := by
  have htrace := hr.trace_eq
  have hrun := hr.run_eq
  rw [trace_bind] at htrace
  rw [run_bind] at hrun
  rcases hp : run h p now s with ⟨_ | error | value, finish, t⟩ <;>
    simp only [hp, List.append_nil] at htrace hrun
  · exact .inr (.inr ⟨finish, t, ⟨htrace, hp⟩, hrun.symm⟩)
  · exact .inr (.inl ⟨error, finish, t, ⟨htrace, hp⟩, hrun.symm⟩)
  · exact .inl ⟨value, finish, t, _, _, ⟨rfl, hp⟩, ⟨rfl, hrun⟩, htrace.symm⟩

/-! ### One program where another ends with an error -/

variable {g : ε → Program I ε' α}

lemma run_handle (h : Handler I σ) (p : Program I ε α) (g : ε → Program I ε' α) (now : Duration)
    (s : σ) :
    run h (p.handle g) now s =
      match run h p now s with
      | ⟨some (.ok value), finish, t⟩ => ⟨some (.ok value), finish, t⟩
      | ⟨some (.error error), mid, t⟩ => run h (g error) mid t
      | ⟨none, finish, t⟩ => ⟨none, finish, t⟩ := by
  induction p generalizing now s with
  | done | fail | stall => rfl
  | ask op next ih => exact ih _ _ _
  | clock next ih => exact ih _ _ _
  | sleep length next ih => exact ih _ _

lemma trace_handle (h : Handler I σ) (p : Program I ε α) (g : ε → Program I ε' α)
    (now : Duration) (s : σ) :
    trace h (p.handle g) now s = trace h p now s ++
      match run h p now s with
      | ⟨some (.error error), mid, t⟩ => trace h (g error) mid t
      | _ => [] := by
  induction p generalizing now s with
  | done value => rfl
  | fail error => rfl
  | stall => rfl
  | ask op next ih => exact congrArg _ (ih _ _ _)
  | clock next ih => exact ih _ _ _
  | sleep length next ih => exact ih _ _

/-- A program that ends well has no use for an error handler. -/
lemma Runs.handle_ok {value : α} {finish : Duration} {t : σ}
    (hr : Runs h p now s log ⟨some (.ok value), finish, t⟩) :
    Runs h (p.handle g) now s log ⟨some (.ok value), finish, t⟩ :=
  ⟨by rw [trace_handle, hr.run_eq, hr.trace_eq, List.append_nil], by rw [run_handle, hr.run_eq]⟩

/-- An error handler that asks for nothing adds nothing to the operations of a program. -/
lemma trace_handle_eq (quiet : ∀ e now s, trace h (g e) now s = []) (p : Program I ε α)
    (now : Duration) (s : σ) : trace h (p.handle g) now s = trace h p now s := by
  rw [trace_handle]
  rcases run h p now s with ⟨_ | error | value, finish, t⟩
  · exact List.append_nil _
  · dsimp only
    rw [quiet, List.append_nil]
  · exact List.append_nil _

end Program

/-! ### Changed values and errors -/

/-- An outcome with its value changed. -/
def Outcome.map {σ ε α β : Type} (g : α → β) (o : Outcome σ ε α) : Outcome σ ε β :=
  ⟨o.result.map (·.map g), o.finish, o.state⟩

/-- An outcome with its error changed. -/
def Outcome.mapError {σ ε ε' α : Type} (f : ε → ε') (o : Outcome σ ε α) : Outcome σ ε' α :=
  ⟨o.result.map (·.mapError f), o.finish, o.state⟩

namespace Program

variable {I : Interface} {σ ε ε' α β : Type} {h : Handler I σ} {now : Duration} {s : σ}
  {log : List (Event I)} {p : Program I ε α}

/-- A program that only changes the value of another one runs as that does. -/
lemma runs_bind_done {g : α → β} {o : Outcome σ ε β}
    (hr : Runs h (p.bind fun value => .done (g value)) now s log o) :
    ∃ o', Runs h p now s log o' ∧ o = o'.map g := by
  rcases runs_bind hr with ⟨value, mid, t, l₁, l₂, hp, hend, rfl⟩ | ⟨e, finish, t, hp, rfl⟩ |
    ⟨finish, t, hp, rfl⟩
  · obtain ⟨rfl, rfl⟩ := runs_done_iff.mp hend
    exact ⟨_, by simpa using hp, rfl⟩
  · exact ⟨_, hp, rfl⟩
  · exact ⟨_, hp, rfl⟩

lemma run_mapError (h : Handler I σ) (f : ε → ε') (p : Program I ε α) (now : Duration) (s : σ) :
    run h (p.mapError f) now s = (run h p now s).mapError f := by
  rw [mapError, run_handle]
  rcases run h p now s with ⟨_ | error | value, finish, t⟩ <;> rfl

lemma trace_mapError (h : Handler I σ) (f : ε → ε') (p : Program I ε α) (now : Duration) (s : σ) :
    trace h (p.mapError f) now s = trace h p now s :=
  trace_handle_eq (fun _ _ _ => rfl) p now s

lemma mapError_id (p : Program I ε α) : p.mapError id = p := by
  induction p with
  | done | fail | stall => rfl
  | ask op next ih => exact congrArg (Program.ask op) (funext ih)
  | clock next ih => exact congrArg Program.clock (funext ih)
  | sleep length next ih => exact congrArg (Program.sleep length) ih

/-- It makes no difference whether a value or an error is changed first. -/
lemma mapError_bind_done (f : ε → ε') (g : α → β) (p : Program I ε α) :
    (p.bind fun value => .done (g value)).mapError f =
      (p.mapError f).bind fun value => .done (g value) := by
  induction p with
  | done | fail | stall => rfl
  | ask op next ih => exact congrArg (Program.ask op) (funext ih)
  | clock next ih => exact congrArg Program.clock (funext ih)
  | sleep length next ih => exact congrArg (Program.sleep length) ih

/-- Changing the errors of a program changes nothing but the error that it ends with. -/
lemma runs_mapError_iff {f : ε → ε'} {o : Outcome σ ε' α} :
    Runs h (p.mapError f) now s log o ↔ ∃ o', Runs h p now s log o' ∧ o = o'.mapError f := by
  constructor
  · intro hr
    refine ⟨run h p now s, ⟨?_, rfl⟩, ?_⟩
    · rw [← trace_mapError h f, hr.trace_eq]
    · rw [← run_mapError h f, hr.run_eq]
  · rintro ⟨o', hr, rfl⟩
    exact ⟨by rw [trace_mapError, hr.trace_eq], by rw [run_mapError, hr.run_eq]⟩

/-! ### What every answer has in common -/

/-- What a handler's answers have in common holds of all events of a run. -/
lemma Runs.forall_events {good : Event I → Prop}
    (hgood : ∀ op now s, good ⟨op, (h op now s).reply, now⟩) {o : Outcome σ ε α}
    (hr : Runs h p now s log o) : ∀ e ∈ log, good e := by
  induction p generalizing now s log with
  | done v => simp [(runs_done_iff.mp hr).1]
  | fail e => simp [(runs_fail_iff.mp hr).1]
  | stall => simp [(runs_stall_iff.mp hr).1]
  | ask op next ih =>
    obtain ⟨l, rfl, hnext⟩ := runs_ask_iff.mp hr
    intro e he
    rcases List.mem_cons.mp he with rfl | he
    · exact hgood op now s
    · exact ih _ hnext e he
  | clock next ih => exact ih _ (runs_clock_iff.mp hr)
  | sleep length next ih => exact ih (runs_sleep_iff.mp hr)

end Program

end Provisioner
