import Provisioner.Poll
import Provisioner.Proofs.Program.Runs
import Provisioner.Retry
/-!
# The operations a program may ask for

`AsksOnly good p` says that the program `p` asks for the operations of `good` only, whatever it is
answered.  It is read off how `p` is put together, and holds of all events of its runs.  What these
operations leave as it is in the state of a handler, all runs of `p` leave so.
-/

namespace Provisioner.Program

variable {I : Interface} {σ ε ε' α β : Type} {good : I.Op → Prop} {p : Program I ε α}

/-- Whatever it is answered, the program asks for these operations only. -/
inductive AsksOnly (good : I.Op → Prop) : Program I ε α → Prop
  | done (value : α) : AsksOnly good (.done value)
  | fail (error : ε) : AsksOnly good (.fail error)
  | ask {op : I.Op} {next : I.Reply op → Program I ε α} (asked : good op)
      (rest : ∀ reply, AsksOnly good (next reply)) : AsksOnly good (.ask op next)
  | clock {next : Duration → Program I ε α} (rest : ∀ now, AsksOnly good (next now)) :
      AsksOnly good (.clock next)
  | sleep {length : Duration} {next : Program I ε α} (rest : AsksOnly good next) :
      AsksOnly good (.sleep length next)
  | stall : AsksOnly good .stall

/-! ### How programs are put together -/

lemma AsksOnly.bind {f : α → Program I ε β} (hp : p.AsksOnly good)
    (hf : ∀ value, (f value).AsksOnly good) : (p.bind f).AsksOnly good := by
  induction hp with
  | done value => exact hf value
  | fail error => exact .fail error
  | ask asked rest ih => exact .ask asked ih
  | clock rest ih => exact .clock ih
  | sleep rest ih => exact .sleep ih
  | stall => exact .stall

lemma AsksOnly.handle {f : ε → Program I ε' α} (hp : p.AsksOnly good)
    (hf : ∀ error, (f error).AsksOnly good) : (p.handle f).AsksOnly good := by
  induction hp with
  | done value => exact .done value
  | fail error => exact hf error
  | ask asked rest ih => exact .ask asked ih
  | clock rest ih => exact .clock ih
  | sleep rest ih => exact .sleep ih
  | stall => exact .stall

lemma AsksOnly.mapError {f : ε → ε'} (hp : p.AsksOnly good) : (p.mapError f).AsksOnly good :=
  hp.handle fun _ => .fail _

lemma asksOnly_ofExcept (value : Except ε α) : (ofExcept (I := I) value).AsksOnly good := by
  cases value with
  | ok value => exact .done value
  | error error => exact .fail error

/-- Another attempt asks for nothing else. -/
lemma AsksOnly.retry (hp : p.AsksOnly good) (retry : Retry) : (retry.run p).AsksOnly good := by
  have hattempts : ∀ n, (retry.retrying p n).AsksOnly good := by
    intro n
    induction n with
    | zero => exact hp
    | succ n ih => exact hp.handle fun _ => .sleep ih
  exact hattempts _

lemma AsksOnly.mono {good' : I.Op → Prop} (hp : p.AsksOnly good)
    (weaker : ∀ op, good op → good' op) : p.AsksOnly good' := by
  induction hp with
  | done value => exact .done value
  | fail error => exact .fail error
  | ask asked rest ih => exact .ask (weaker _ asked) ih
  | clock rest ih => exact .clock ih
  | sleep rest ih => exact .sleep ih
  | stall => exact .stall

/-- A wait asks for what its evaluations ask for. -/
lemma AsksOnly.waitFor {check : Program I Error (Option α)} (hcheck : check.AsksOnly good)
    (poll : Poll) (description : String) : (poll.waitFor description check).AsksOnly good := by
  have hrounds : ∀ n start, (poll.waitRounds description check start n).AsksOnly good := by
    intro n start
    induction n with
    | zero => exact .stall
    | succ n ih =>
      refine hcheck.bind fun found => ?_
      cases found with
      | some value => exact .done value
      | none =>
        refine .clock fun now => ?_
        split
        · exact .fail _
        · exact .sleep ih
  exact .clock fun start => hrounds _ start

/-! ### What it asks for when it is run -/

lemma AsksOnly.forall_events {h : Handler I σ} {now : Duration} {s : σ} {log : List (Event I)}
    {o : Outcome σ ε α} (hp : p.AsksOnly good) (hr : Runs h p now s log o) :
    ∀ e ∈ log, good e.op := by
  induction hp generalizing now s log with
  | done value => simp [(runs_done_iff.mp hr).1]
  | fail error => simp [(runs_fail_iff.mp hr).1]
  | stall => simp [(runs_stall_iff.mp hr).1]
  | ask asked rest ih =>
    obtain ⟨l, rfl, hnext⟩ := runs_ask_iff.mp hr
    intro e he
    rcases List.mem_cons.mp he with rfl | he
    · exact asked
    · exact ih _ hnext e he
  | clock rest ih => exact ih _ (runs_clock_iff.mp hr)
  | sleep rest ih => exact ih (runs_sleep_iff.mp hr)

/-! ### What it leaves as it is -/

variable {τ : Type} {view : σ → τ} {h : Handler I σ} {now : Duration} {s : σ}
  {log : List (Event I)} {o : Outcome σ ε α}

/-- What every operation leaves as it is, a run leaves so, and each of its answers is given where
that is still so. -/
lemma AsksOnly.keeps (hp : p.AsksOnly good)
    (kept : ∀ op, good op → ∀ now s, view (h op now s).state = view s)
    (hr : Runs h p now s log o) :
    view o.state = view s ∧
      ∀ e ∈ log, ∃ u, view u = view s ∧ e.reply = (h e.op e.start u).reply := by
  induction hp generalizing now s log with
  | done value =>
    obtain ⟨rfl, rfl⟩ := runs_done_iff.mp hr
    simp
  | fail error =>
    obtain ⟨rfl, rfl⟩ := runs_fail_iff.mp hr
    simp
  | stall =>
    obtain ⟨rfl, rfl⟩ := runs_stall_iff.mp hr
    simp
  | @ask op next asked rest ih =>
    obtain ⟨l, rfl, hnext⟩ := runs_ask_iff.mp hr
    have hturn := kept op asked now s
    obtain ⟨hstate, hanswers⟩ := ih _ hnext
    rw [hturn] at hstate hanswers
    refine ⟨hstate, fun e he => ?_⟩
    rcases List.mem_cons.mp he with rfl | he
    · exact ⟨s, rfl, rfl⟩
    · exact hanswers e he
  | clock rest ih => exact ih _ (runs_clock_iff.mp hr)
  | sleep rest ih => exact ih (runs_sleep_iff.mp hr)

end Provisioner.Program
