import Provisioner.Proofs.Program.InTurn
import Provisioner.Retry
/-!
# Programs that are carried out by others

Answering each operation of a program by a program over other operations goes part by part: it
commutes with the ways in which programs are put together.  Work that is a list of programs in turn
is then again a list of programs in turn, and its successful runs are those of the parts.
-/

namespace Provisioner.Program

variable {I J : Interface} {σ ε ε' α β γ ι : Type}

/-! ## Interpretation, part by part -/

section Interpret

variable (answer : (op : I.Op) → Program J Empty (I.Reply op))

/-- An error handler has nothing to do with a program that cannot fail. -/
lemma bind_handle_of_elim (q : Program J Empty α) (g : α → Program J ε β)
    (f : ε → Program J ε' β) :
    ((q.handle fun e => e.elim).bind g).handle f =
      (q.handle fun e => e.elim).bind fun value => (g value).handle f := by
  induction q with
  | done value => rfl
  | fail e => exact e.elim
  | ask op next ih => exact congrArg (Program.ask op) (funext ih)
  | clock next ih => exact congrArg Program.clock (funext ih)
  | sleep length next ih => exact congrArg (Program.sleep length) ih
  | stall => rfl

/-- A program that is attempted ends in the end as it does anyway. -/
lemma attempt_bind_ofExcept (p : Program I ε α) :
    ((p.attempt : Program I Empty (Except ε α)).handle fun e => e.elim).bind ofExcept = p := by
  induction p with
  | done | fail | stall => rfl
  | ask op next ih => exact congrArg (Program.ask op) (funext ih)
  | clock next ih => exact congrArg Program.clock (funext ih)
  | sleep length next ih => exact congrArg (Program.sleep length) ih

lemma interpret_bind (p : Program I ε α) (f : α → Program I ε β) :
    interpret answer (p.bind f) = (interpret answer p).bind fun value =>
      interpret answer (f value) := by
  induction p with
  | done | fail | stall => rfl
  | ask op next ih =>
    have hnext : (fun reply => interpret answer ((next reply).bind f)) =
        fun reply => (interpret answer (next reply)).bind fun value =>
          interpret answer (f value) := funext ih
    -- The answer to an operation is a program of its own, and what follows is bound to it.
    rw [bind, interpret, hnext, interpret, bind_assoc]
  | clock next ih => exact congrArg Program.clock (funext ih)
  | sleep length next ih => exact congrArg (Program.sleep length) ih

lemma interpret_handle (p : Program I ε α) (f : ε → Program I ε' α) :
    interpret answer (p.handle f) = (interpret answer p).handle fun e =>
      interpret answer (f e) := by
  induction p with
  | done | fail | stall => rfl
  | ask op next ih =>
    have hnext : (fun reply => interpret answer ((next reply).handle f)) =
        fun reply => (interpret answer (next reply)).handle fun e =>
          interpret answer (f e) := funext ih
    -- That program cannot fail, so the handler passes it by.
    rw [handle, interpret, hnext, interpret, bind_handle_of_elim]
  | clock next ih => exact congrArg Program.clock (funext ih)
  | sleep length next ih => exact congrArg (Program.sleep length) ih

lemma interpret_mapError (p : Program I ε α) (f : ε → ε') :
    interpret answer (p.mapError f) = (interpret answer p).mapError f :=
  interpret_handle answer p _

lemma interpret_ofExcept (value : Except ε α) :
    interpret answer (ofExcept value) = ofExcept value := by
  cases value <;> rfl

lemma interpret_retry (retry : Retry) (p : Program I ε α) :
    interpret answer (retry.run p) = retry.run (interpret answer p) := by
  have hattempts : ∀ n, interpret answer (retry.retrying p n) =
      retry.retrying (interpret answer p) n := by
    intro n
    induction n with
    | zero => rfl
    | succ n ih =>
      have hsleep : interpret answer (.sleep retry.delay (retry.retrying p n)) =
          .sleep retry.delay (retry.retrying (interpret answer p) n) := by
        rw [interpret, ih]
      rw [Retry.retrying, interpret_handle, hsleep, Retry.retrying]
  exact hattempts _

end Interpret

/-! ## Runs that end well -/

variable {h : Handler I σ} {now finish : Duration} {s t : σ} {log : List (Event I)}
  {p : Program I ε α} {value : α}

/-- A result is that of a run. -/
lemma runs_of_result {result : Option (Except ε α)} (hresult : (run h p now s).result = result) :
    Runs h p now s (trace h p now s) ⟨result, (run h p now s).finish, (run h p now s).state⟩ :=
  ⟨rfl, by rw [← hresult]⟩

lemma runs_mapError_ok_iff {f : ε → ε'} :
    Runs h (p.mapError f) now s log ⟨some (.ok value), finish, t⟩ ↔
      Runs h p now s log ⟨some (.ok value), finish, t⟩ := by
  constructor
  · intro hr
    obtain ⟨⟨result, later, u⟩, hp, ho⟩ := runs_mapError_iff.mp hr
    rcases result with _ | e | value'
    · cases ho
    · cases ho
    · cases ho
      exact hp
  · intro hr
    exact runs_mapError_iff.mpr ⟨_, hr, rfl⟩

lemma runs_bind_ok_iff {f : α → Program I ε β} {value : β} :
    Runs h (p.bind f) now s log ⟨some (.ok value), finish, t⟩ ↔
      ∃ first mid u l₁ l₂, Runs h p now s l₁ ⟨some (.ok first), mid, u⟩ ∧
        Runs h (f first) mid u l₂ ⟨some (.ok value), finish, t⟩ ∧ log = l₁ ++ l₂ := by
  constructor
  · intro hr
    rcases runs_bind hr with hboth | ⟨e, later, u, -, ho⟩ | ⟨later, u, -, ho⟩
    · exact hboth
    · cases ho
    · cases ho
  · rintro ⟨first, mid, u, l₁, l₂, hp, hf, rfl⟩
    exact hp.bind_ok hf

/-- What ends well at the first attempt is not attempted again. -/
lemma Runs.retry_ok (hr : Runs h p now s log ⟨some (.ok value), finish, t⟩) (retry : Retry) :
    Runs h (retry.run p) now s log ⟨some (.ok value), finish, t⟩ := by
  unfold Retry.run
  cases retry.attempts - 1 with
  | zero => exact hr
  | succ n => exact hr.handle_ok

/-! ### Programs in turn that end well -/

variable {work work' : ι → Program I ε Unit} {is : List ι} {logs : List (List (Event I))}

/-- Programs that run as others do when those end well, run so in turn. -/
lemma AllEnd.mono
    (hwork : ∀ i ∈ is, ∀ now s log mid t, Runs h (work i) now s log ⟨some (.ok ()), mid, t⟩ →
      Runs h (work' i) now s log ⟨some (.ok ()), mid, t⟩)
    (hall : AllEnd h (is.map work) now s logs finish t) :
    AllEnd h (is.map work') now s logs finish t := by
  induction is generalizing now s logs with
  | nil => exact hall
  | cons i is ih =>
    cases hall with
    | cons first rest =>
      exact .cons (hwork i List.mem_cons_self _ _ _ _ _ first)
        (ih (fun j hj => hwork j (List.mem_cons_of_mem i hj)) rest)

/-- What every program that ends well yields in its operations, all of them yield in turn. -/
lemma AllEnd.filterMap {f : Event I → Option γ} {yield : ι → List γ}
    (hyield : ∀ i ∈ is, ∀ now s log mid t, Runs h (work i) now s log ⟨some (.ok ()), mid, t⟩ →
      log.filterMap f = yield i)
    (hall : AllEnd h (is.map work) now s logs finish t) :
    logs.flatten.filterMap f = is.flatMap yield := by
  induction is generalizing now s logs with
  | nil =>
    cases hall
    rfl
  | cons i is ih =>
    cases hall with
    | cons first rest =>
      rw [List.flatten_cons, List.filterMap_append, hyield i List.mem_cons_self _ _ _ _ _ first,
        ih (fun j hj => hyield j (List.mem_cons_of_mem i hj)) rest, List.flatMap_cons]

/-- Each of the programs ends well somewhere. -/
lemma AllEnd.exists_runs (hall : AllEnd h (is.map work) now s logs finish t) :
    ∀ i ∈ is, ∃ start u log mid v, Runs h (work i) start u log ⟨some (.ok ()), mid, v⟩ := by
  induction is generalizing now s logs with
  | nil => simp
  | cons i is ih =>
    cases hall with
    | cons first rest =>
      intro j hj
      rcases List.mem_cons.mp hj with rfl | hj
      · exact ⟨_, _, _, _, _, first⟩
      · exact ih rest j hj

/-- Wherever it starts, the program ends well. -/
def AlwaysEnds (h : Handler I σ) (p : Program I ε Unit) : Prop :=
  ∀ now s, ∃ log finish t, Runs h p now s log ⟨some (.ok ()), finish, t⟩

lemma alwaysEnds_inTurn (hends : ∀ i ∈ is, AlwaysEnds h (work i)) :
    AlwaysEnds h (inTurn (is.map work)) := by
  induction is with
  | nil => exact fun now s => ⟨[], now, s, runs_done_iff.mpr ⟨rfl, rfl⟩⟩
  | cons i is ih =>
    intro now s
    obtain ⟨l₁, mid, u, hfirst⟩ := hends i List.mem_cons_self now s
    obtain ⟨l₂, finish, t, hrest⟩ := ih (fun j hj => hends j (List.mem_cons_of_mem i hj)) mid u
    exact ⟨l₁ ++ l₂, finish, t, hfirst.bind_ok hrest⟩

end Provisioner.Program
