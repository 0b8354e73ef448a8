import Provisioner.Proofs.Program.Runs
import Mathlib.Data.List.Forall2
/-!
# Programs in turn

`inTurn` carries out a list of programs, each one after those before it have ended well.  Its runs
are taken apart into the runs of the programs: either all of them end well, one after the other, or
the first ones do, the next one ends otherwise, and nothing of the rest is run.
-/

namespace Provisioner.Program

variable {I : Interface} {σ ε α β γ ι : Type} {h : Handler I σ} {now finish : Duration} {s t : σ}
  {log : List (Event I)}

/-- Programs one after the other, each once the one before it has ended well. -/
def inTurn : List (Program I ε Unit) → Program I ε Unit
  | [] => .done ()
  | p :: rest => p.bind fun _ => inTurn rest

@[simp] lemma inTurn_cons (p : Program I ε Unit) (rest : List (Program I ε Unit)) :
    inTurn (p :: rest) = p.bind fun _ => inTurn rest := rfl

lemma inTurn_append (ps qs : List (Program I ε Unit)) :
    inTurn (ps ++ qs) = (inTurn ps).bind fun _ => inTurn qs := by
  induction ps with
  | nil => rfl
  | cons p ps ih => rw [List.cons_append, inTurn_cons, inTurn_cons, ih, Program.bind_assoc]

/-- Programs that all end well, one after the other, with the operations of each. -/
inductive AllEnd (h : Handler I σ) :
    List (Program I ε Unit) → Duration → σ → List (List (Event I)) → Duration → σ → Prop
  | nil (now : Duration) (s : σ) : AllEnd h [] now s [] now s
  | cons {p : Program I ε Unit} {ps : List (Program I ε Unit)} {now mid later : Duration}
      {s t u : σ} {log : List (Event I)} {logs : List (List (Event I))}
      (first : Runs h p now s log ⟨some (.ok ()), mid, t⟩)
      (rest : AllEnd h ps mid t logs later u) : AllEnd h (p :: ps) now s (log :: logs) later u

/-! ### A program and what follows it -/

/-- What follows a program that ends well goes on from there. -/
lemma Runs.bind_ok {p : Program I ε α} {f : α → Program I ε β} {value : α} {mid : Duration}
    {l₁ l₂ : List (Event I)} {o : Outcome σ ε β}
    (hp : Runs h p now s l₁ ⟨some (.ok value), mid, t⟩) (hf : Runs h (f value) mid t l₂ o) :
    Runs h (p.bind f) now s (l₁ ++ l₂) o := by
  constructor
  · rw [trace_bind, hp.run_eq, hp.trace_eq]
    exact congrArg (l₁ ++ ·) hf.trace_eq
  · rw [run_bind, hp.run_eq]
    exact hf.run_eq

/-- What follows a program that does not end well is not run. -/
lemma Runs.bind_stopped {p : Program I ε Unit} {f : Unit → Program I ε Unit}
    {result : Option (Except ε Unit)} (stops : result ≠ some (.ok ()))
    (hp : Runs h p now s log ⟨result, finish, t⟩) :
    Runs h (p.bind f) now s log ⟨result, finish, t⟩ := by
  rcases result with _ | e | value
  · exact ⟨by rw [trace_bind, hp.run_eq, hp.trace_eq, List.append_nil],
      by rw [run_bind, hp.run_eq]⟩
  · exact ⟨by rw [trace_bind, hp.run_eq, hp.trace_eq, List.append_nil],
      by rw [run_bind, hp.run_eq]⟩
  · exact absurd rfl stops

/-! ### All of them -/

variable {ps : List (Program I ε Unit)}

lemma runs_inTurn_ok_iff :
    Runs h (inTurn ps) now s log ⟨some (.ok ()), finish, t⟩ ↔
      ∃ logs, AllEnd h ps now s logs finish t ∧ log = logs.flatten := by
  constructor
  · intro hr
    induction ps generalizing now s log with
    | nil =>
      obtain ⟨rfl, ho⟩ := runs_done_iff.mp hr
      cases ho
      exact ⟨[], .nil _ _, rfl⟩
    | cons p ps ih =>
      rcases runs_bind hr with ⟨_, mid, u, l₁, l₂, hp, hrest, rfl⟩ | ⟨e, later, u, hp, ho⟩ |
        ⟨later, u, hp, ho⟩
      · obtain ⟨logs, hall, rfl⟩ := ih hrest
        exact ⟨l₁ :: logs, .cons hp hall, rfl⟩
      · cases ho
      · cases ho
  · rintro ⟨logs, hall, rfl⟩
    induction hall with
    | nil now s => exact runs_done_iff.mpr ⟨rfl, rfl⟩
    | cons first rest ih => exact first.bind_ok ih

/-- The programs end otherwise than well exactly when the first ones end well and the next one does
not; that one ends them all. -/
lemma runs_inTurn_stopped_iff {result : Option (Except ε Unit)}
    (stops : result ≠ some (.ok ())) :
    Runs h (inTurn ps) now s log ⟨result, finish, t⟩ ↔
      ∃ done p rest logs mid u last, ps = done ++ p :: rest ∧ AllEnd h done now s logs mid u ∧
        Runs h p mid u last ⟨result, finish, t⟩ ∧ log = logs.flatten ++ last := by
  constructor
  · intro hr
    induction ps generalizing now s log with
    | nil =>
      obtain ⟨-, ho⟩ := runs_done_iff.mp hr
      cases ho
      exact absurd rfl stops
    | cons p ps ih =>
      rcases runs_bind hr with ⟨_, mid, u, l₁, l₂, hp, hrest, rfl⟩ | ⟨e, later, u, hp, ho⟩ |
        ⟨later, u, hp, ho⟩
      · obtain ⟨done, q, rest, logs, later, v, last, rfl, hall, hq, rfl⟩ := ih hrest
        exact ⟨p :: done, q, rest, l₁ :: logs, later, v, last, rfl, .cons hp hall, hq, by simp⟩
      · cases ho
        exact ⟨[], p, ps, [], now, s, log, rfl, .nil now s, hp, rfl⟩
      · cases ho
        exact ⟨[], p, ps, [], now, s, log, rfl, .nil now s, hp, rfl⟩
  · rintro ⟨done, p, rest, logs, mid, u, last, rfl, hall, hp, rfl⟩
    have hfirst : Runs h (inTurn done) now s logs.flatten ⟨some (.ok ()), mid, u⟩ :=
      runs_inTurn_ok_iff.mpr ⟨logs, hall, rfl⟩
    rw [inTurn_append]
    exact hfirst.bind_ok (hp.bind_stopped stops)

/-! ### What is known of each of them -/

variable {work : ι → Program I ε Unit} {is : List ι} {logs : List (List (Event I))}

/-- What holds of the operations of each program holds of them in turn. -/
lemma AllEnd.forall₂ {calls : ι → List (Event I) → Prop}
    (hcalls : ∀ i ∈ is, ∀ now s log mid t,
      Runs h (work i) now s log ⟨some (.ok ()), mid, t⟩ → calls i log)
    (hall : AllEnd h (is.map work) now s logs finish t) : List.Forall₂ calls is logs := by
  induction is generalizing now s logs with
  | nil =>
    cases hall
    exact .nil
  | cons i is ih =>
    cases hall with
    | cons first rest =>
      exact .cons (hcalls i List.mem_cons_self _ _ _ _ _ first)
        (ih (fun j hj => hcalls j (List.mem_cons_of_mem i hj)) rest)

/-- Every operation is one of a program that runs after those before it have ended well. -/
lemma Runs.exists_inTurn {before after : List (Event I)} {e : Event I} {o : Outcome σ ε Unit}
    (hr : Runs h (inTurn (is.map work)) now s (before ++ e :: after) o) :
    ∃ done i later logs mid t first more end_, is = done ++ i :: later ∧
      AllEnd h (done.map work) now s logs mid t ∧ before = logs.flatten ++ first ∧
      Runs h (work i) mid t (first ++ e :: more) end_ := by
  induction is generalizing now s before with
  | nil =>
    obtain ⟨hlog, -⟩ := runs_done_iff.mp hr
    simp at hlog
  | cons i is ih =>
    rcases runs_bind hr with ⟨_, mid, u, l₁, l₂, hi, hrest, hlog⟩ | ⟨e', later, u, hi, -⟩ |
      ⟨later, u, hi, -⟩
    · rcases List.append_eq_append_iff.mp hlog with ⟨own, rfl, hafter⟩ | ⟨more, rfl, hrest'⟩
      · cases own with
        | nil =>
          -- the operation is the first one of what follows
          rw [List.nil_append] at hafter
          subst hafter
          have hnext : Runs h (inTurn (is.map work)) mid u ([] ++ e :: after) o := hrest
          obtain ⟨done, j, later, logs, mid', t, first, more, end_, rfl, hall, hbefore, hj⟩ :=
            ih hnext
          exact ⟨i :: done, j, later, _ :: logs, mid', t, first, more, end_, rfl, .cons hi hall,
            by simpa using hbefore, hj⟩
        | cons e' more =>
          obtain ⟨rfl, rfl⟩ := List.cons_eq_cons.mp hafter
          exact ⟨[], i, is, [], now, s, before, more, _, rfl, .nil now s, rfl, hi⟩
      · subst hrest'
        obtain ⟨done, j, later, logs, mid', t, first, rest, end_, rfl, hall, rfl, hj⟩ := ih hrest
        exact ⟨i :: done, j, later, _ :: logs, mid', t, first, rest, end_, rfl, .cons hi hall,
          by simp, hj⟩
    · exact ⟨[], i, is, [], now, s, before, after, _, rfl, .nil now s, rfl, hi⟩
    · exact ⟨[], i, is, [], now, s, before, after, _, rfl, .nil now s, rfl, hi⟩

/-- What every program that ends well yields in its operations, and what it yields a first part of
however it ends, is yielded by all of them in turn. -/
lemma Runs.filterMap_inTurn_prefix {f : Event I → Option γ} {yield : ι → List γ}
    {o : Outcome σ ε Unit}
    (whole : ∀ i ∈ is, ∀ now s log mid t, Runs h (work i) now s log ⟨some (.ok ()), mid, t⟩ →
      log.filterMap f = yield i)
    (part : ∀ i ∈ is, ∀ now s log o, Runs h (work i) now s log o →
      log.filterMap f <+: yield i)
    (hr : Runs h (inTurn (is.map work)) now s log o) :
    log.filterMap f <+: is.flatMap yield := by
  induction is generalizing now s log with
  | nil =>
    obtain ⟨rfl, -⟩ := runs_done_iff.mp hr
    exact List.nil_prefix
  | cons i is ih =>
    rw [List.flatMap_cons]
    rcases runs_bind hr with ⟨_, mid, u, l₁, l₂, hi, hrest, rfl⟩ | ⟨e, later, u, hi, -⟩ |
      ⟨later, u, hi, -⟩
    · rw [List.filterMap_append, whole i List.mem_cons_self _ _ _ _ _ hi]
      refine (List.prefix_append_right_inj _).mpr (ih ?_ ?_ hrest)
      · exact fun j hj => whole j (List.mem_cons_of_mem i hj)
      · exact fun j hj => part j (List.mem_cons_of_mem i hj)
    · exact (part i List.mem_cons_self _ _ _ _ hi).trans (List.prefix_append _ _)
    · exact (part i List.mem_cons_self _ _ _ _ hi).trans (List.prefix_append _ _)

end Provisioner.Program
