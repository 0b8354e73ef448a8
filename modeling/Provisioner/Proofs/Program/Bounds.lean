import Mathlib.Algebra.Order.Floor.Div
import Provisioner.Poll
import Provisioner.Proofs.Program.InTurn
import Provisioner.Retry
/-!
# How long programs take and how much they ask for

Two bounds on a program, each for all of its runs: `EndsWithin` on the time, which also says that
the program ends, and `AsksAtMost` on the number of operations.  Both are read off how a program is
put together.  A bounded wait and a retried operation are where a program sleeps, so that with
answers that take no time their bounds are all that there is to add up.
-/

namespace Provisioner

variable {I : Interface} {σ ε ε' α β ι : Type}

/-- Answers that take no time. -/
def Handler.Instant (h : Handler I σ) : Prop := ∀ op now s, (h op now s).took = 0

/-- An outcome that is an end, not after so many nanoseconds. -/
structure Outcome.EndedBy (o : Outcome σ ε α) (limit : Nat) : Prop where
  ended : o.result ≠ none
  finish_le : o.finish.nanoseconds ≤ limit

namespace Poll

/-- How many intervals it takes to reach the deadline. -/
def ticks (p : Poll) : Nat := p.timeout.nanoseconds ⌈/⌉ p.interval.nanoseconds

/-- Nanoseconds from the start of a wait to the evaluation at which it is given up. -/
def span (p : Poll) : Nat := p.ticks * p.interval.nanoseconds

variable {p : Poll}

lemma steps_eq_ticks (p : Poll) : Duration.steps p.interval p.timeout = p.ticks :=
  (Nat.ceilDiv_eq_add_pred_div _ _).symm

/-- One evaluation at the start and one after each interval. -/
lemma rounds_eq (hp : p.interval ≠ 0) : p.rounds = p.ticks + 1 := by
  rw [rounds, if_neg hp, steps_eq_ticks]

lemma interval_pos (hp : p.interval ≠ 0) : 0 < p.interval.nanoseconds := by
  refine Nat.pos_of_ne_zero fun hzero => hp ?_
  exact Duration.ext hzero

/-- The deadline is reached with the last evaluation. -/
lemma timeout_le_span (hp : p.interval ≠ 0) : p.timeout.nanoseconds ≤ p.span := by
  have hle := le_smul_ceilDiv (interval_pos hp) (b := p.timeout.nanoseconds)
  rwa [smul_eq_mul, Nat.mul_comm] at hle

end Poll

namespace Program

variable {h : Handler I σ} {p : Program I ε α} {f : α → Program I ε β}

/-- Time does not run backwards. -/
lemma le_finish (h : Handler I σ) (p : Program I ε α) (now : Duration) (s : σ) :
    now.nanoseconds ≤ (run h p now s).finish.nanoseconds := by
  induction p generalizing now s with
  | done | fail | stall => exact le_rfl
  | ask op next ih =>
    have hnext := ih (h op now s).reply (now + (h op now s).took) (h op now s).state
    simp only [run, Duration.nanoseconds_add] at hnext ⊢
    omega
  | clock next ih => exact ih now now s
  | sleep length next ih =>
    have hnext := ih (now + length) s
    simp only [run, Duration.nanoseconds_add] at hnext ⊢
    omega

/-! ## Time -/

/-- Wherever it starts, the program ends, and takes so many nanoseconds at most. -/
def EndsWithin (h : Handler I σ) (time : Nat) (p : Program I ε α) : Prop :=
  ∀ now s, (run h p now s).EndedBy (now.nanoseconds + time)

lemma EndsWithin.mono {time time' : Nat} (hp : EndsWithin h time p) (hle : time ≤ time') :
    EndsWithin h time' p := by
  intro now s
  obtain ⟨hended, hfinish⟩ := hp now s
  exact ⟨hended, by omega⟩

lemma endsWithin_done (h : Handler I σ) (value : α) (time : Nat) :
    EndsWithin h time (.done value : Program I ε α) :=
  fun now s => ⟨by simp [run], by simp [run]⟩

lemma endsWithin_fail (h : Handler I σ) (error : ε) (time : Nat) :
    EndsWithin h time (.fail error : Program I ε α) :=
  fun now s => ⟨by simp [run], by simp [run]⟩

lemma endsWithin_ofExcept (h : Handler I σ) (result : Except ε α) (time : Nat) :
    EndsWithin h time (ofExcept result) := by
  cases result with
  | ok value => exact endsWithin_done h value time
  | error error => exact endsWithin_fail h error time

/-- Asking takes no time of its own. -/
lemma endsWithin_ask (instant : h.Instant) {time : Nat} {op : I.Op}
    {next : I.Reply op → Program I ε α} (hnext : ∀ reply, EndsWithin h time (next reply)) :
    EndsWithin h time (.ask op next) := by
  intro now s
  have hrest := hnext (h op now s).reply (now + (h op now s).took) (h op now s).state
  rw [instant op now s, Duration.add_zero] at hrest
  simpa only [run, instant op now s, Duration.add_zero] using hrest

lemma EndsWithin.sleep {time : Nat} (hp : EndsWithin h time p) (length : Duration) :
    EndsWithin h (length.nanoseconds + time) (.sleep length p) := by
  intro now s
  obtain ⟨hended, hfinish⟩ := hp (now + length) s
  rw [Duration.nanoseconds_add] at hfinish
  exact ⟨hended, by simp only [run]; omega⟩

lemma EndsWithin.bind {m n : Nat} (hp : EndsWithin h m p)
    (hf : ∀ value, EndsWithin h n (f value)) : EndsWithin h (m + n) (p.bind f) := by
  intro now s
  obtain ⟨hended, hfinish⟩ := hp now s
  rw [run_bind]
  rcases hrun : run h p now s with ⟨_ | error | value, finish, t⟩ <;> rw [hrun] at hended hfinish
  · exact absurd rfl hended
  · exact ⟨by simp, by dsimp only at hfinish ⊢; omega⟩
  · obtain ⟨hended', hfinish'⟩ := hf value finish t
    exact ⟨hended', by dsimp only at hfinish hfinish' ⊢; omega⟩

lemma EndsWithin.handle {time time' : Nat} {g : ε → Program I ε' α} (hp : EndsWithin h time p)
    (hg : ∀ error, EndsWithin h time' (g error)) : EndsWithin h (time + time') (p.handle g) := by
  intro now s
  obtain ⟨hended, hfinish⟩ := hp now s
  rw [run_handle]
  rcases hrun : run h p now s with ⟨_ | error | value, finish, t⟩ <;> rw [hrun] at hended hfinish
  · exact absurd rfl hended
  · obtain ⟨hended', hfinish'⟩ := hg error finish t
    exact ⟨hended', by dsimp only at hfinish hfinish' ⊢; omega⟩
  · exact ⟨by simp, by dsimp only at hfinish ⊢; omega⟩

lemma EndsWithin.mapError {time : Nat} (hp : EndsWithin h time p) (g : ε → ε') :
    EndsWithin h time (p.mapError g) :=
  hp.handle fun error => endsWithin_fail h (g error) 0

/-- Programs in turn take the time that they take one by one. -/
lemma endsWithin_inTurn {work : ι → Program I ε Unit} {time : ι → Nat} {is : List ι}
    (hwork : ∀ i ∈ is, EndsWithin h (time i) (work i)) :
    EndsWithin h (is.map time).sum (inTurn (is.map work)) := by
  induction is with
  | nil => exact endsWithin_done h () 0
  | cons i is ih =>
    have hrest := ih fun j hj => hwork j (List.mem_cons_of_mem i hj)
    simpa using (hwork i List.mem_cons_self).bind fun _ => hrest

/-- An operation that takes no time is retried for as long as the delays between its attempts. -/
lemma EndsWithin.retry (hp : EndsWithin h 0 p) (retry : Retry) :
    EndsWithin h ((retry.attempts - 1) * retry.delay.nanoseconds) (retry.run p) := by
  have hattempts : ∀ n, EndsWithin h (n * retry.delay.nanoseconds) (retry.retrying p n) := by
    intro n
    induction n with
    | zero => simpa [Retry.retrying] using hp
    | succ n ih =>
      have hagain := hp.handle fun _ => ih.sleep retry.delay
      rw [Retry.retrying, Nat.succ_mul, Nat.add_comm]
      simpa using hagain
  exact hattempts _

/-- A wait that has not passed its deadline, and has evaluations left that get there, ends with the
last one of them at the latest. -/
lemma endsWithin_waitRounds {poll : Poll} {description : String} {start : Duration}
    {check : Program I Error (Option α)} (hcheck : EndsWithin h 0 check) {limit : Nat} (n : Nat)
    (now : Duration) (s : σ)
    (hbefore : now.nanoseconds <
      start.nanoseconds + poll.timeout.nanoseconds + poll.interval.nanoseconds)
    (hleft : start.nanoseconds + poll.timeout.nanoseconds + poll.interval.nanoseconds ≤
      now.nanoseconds + n * poll.interval.nanoseconds)
    (hlimit : now.nanoseconds + n * poll.interval.nanoseconds ≤
      limit + poll.interval.nanoseconds) :
    (run h (poll.waitRounds description check start n) now s).EndedBy limit := by
  induction n generalizing now s with
  | zero => omega
  | succ n ih =>
    rw [Nat.succ_mul] at hleft hlimit
    obtain ⟨hended, hfinish⟩ := hcheck now s
    have hle := le_finish h check now s
    rw [Poll.waitRounds, bind_eq, run_bind]
    rcases hrun : run h check now s with ⟨_ | error | _ | value, mid, t⟩ <;>
      rw [hrun] at hended hfinish hle <;> dsimp only at hfinish hle
    · exact absurd rfl hended
    · exact ⟨by simp, by dsimp only; omega⟩
    · simp only [run]
      split
      case isTrue hreached => exact ⟨by simp [run], by simp only [run]; omega⟩
      case isFalse hreached =>
        -- the evaluation took no time, so the next one comes exactly one interval later
        rw [Duration.le_iff, Duration.nanoseconds_sub] at hreached
        refine ih (mid + poll.interval) t ?_ ?_ ?_ <;>
          (rw [Duration.nanoseconds_add]; omega)
    · exact ⟨by simp [run], by simp only [run, pure_eq]; omega⟩

/-- A wait whose evaluations take no time is over when the deadline is reached. -/
lemma endsWithin_waitFor {poll : Poll} (hp : poll.interval ≠ 0) (description : String)
    {check : Program I Error (Option α)} (hcheck : EndsWithin h 0 check) :
    EndsWithin h poll.span (poll.waitFor description check) := by
  intro now s
  have hpos := Poll.interval_pos hp
  have hdeadline := Poll.timeout_le_span hp
  have hspan : (poll.ticks + 1) * poll.interval.nanoseconds =
      poll.span + poll.interval.nanoseconds := Nat.succ_mul _ _
  rw [Poll.waitFor, Poll.rounds_eq hp]
  refine endsWithin_waitRounds hcheck (poll.ticks + 1) now s ?_ ?_ ?_ <;> omega

/-! ## Operations -/

/-- Wherever it starts, the program asks for so many operations at most. -/
def AsksAtMost (h : Handler I σ) (count : Nat) (p : Program I ε α) : Prop :=
  ∀ now s, (trace h p now s).length ≤ count

lemma AsksAtMost.mono {count count' : Nat} (hp : AsksAtMost h count p) (hle : count ≤ count') :
    AsksAtMost h count' p := fun now s => (hp now s).trans hle

lemma asksAtMost_done (h : Handler I σ) (value : α) (count : Nat) :
    AsksAtMost h count (.done value : Program I ε α) := fun now s => by simp [trace]

lemma asksAtMost_fail (h : Handler I σ) (error : ε) (count : Nat) :
    AsksAtMost h count (.fail error : Program I ε α) := fun now s => by simp [trace]

lemma asksAtMost_ofExcept (h : Handler I σ) (result : Except ε α) (count : Nat) :
    AsksAtMost h count (ofExcept result) := by
  cases result with
  | ok value => exact asksAtMost_done h value count
  | error error => exact asksAtMost_fail h error count

lemma asksAtMost_ask {count : Nat} {op : I.Op} {next : I.Reply op → Program I ε α}
    (hnext : ∀ reply, AsksAtMost h count (next reply)) :
    AsksAtMost h (count + 1) (.ask op next) := by
  intro now s
  have hrest := hnext (h op now s).reply (now + (h op now s).took) (h op now s).state
  simp only [trace, List.length_cons]
  omega

lemma AsksAtMost.bind {m n : Nat} (hp : AsksAtMost h m p)
    (hf : ∀ value, AsksAtMost h n (f value)) : AsksAtMost h (m + n) (p.bind f) := by
  intro now s
  have hfirst := hp now s
  rw [trace_bind, List.length_append]
  rcases run h p now s with ⟨_ | error | value, mid, t⟩
  · simpa using hfirst.trans (Nat.le_add_right m n)
  · simpa using hfirst.trans (Nat.le_add_right m n)
  · exact Nat.add_le_add hfirst (hf value mid t)

lemma AsksAtMost.mapError {count : Nat} (hp : AsksAtMost h count p) (g : ε → ε') :
    AsksAtMost h count (p.mapError g) := by
  intro now s
  rw [trace_mapError]
  exact hp now s

/-- A wait evaluates its condition a bounded number of times. -/
lemma AsksAtMost.waitFor {poll : Poll} (hp : poll.interval ≠ 0) (description : String) {count : Nat}
    {check : Program I Error (Option α)} (hcheck : AsksAtMost h count check) :
    AsksAtMost h ((poll.ticks + 1) * count) (poll.waitFor description check) := by
  have hrounds : ∀ n start,
      AsksAtMost h (n * count) (poll.waitRounds description check start n) := by
    intro n start
    induction n with
    | zero => exact fun now s => by simp [Poll.waitRounds, trace]
    | succ n ih =>
      rw [Nat.succ_mul, Nat.add_comm]
      refine hcheck.bind fun found => ?_
      cases found with
      | some value => exact asksAtMost_done h value _
      | none =>
        intro now s
        simp only [trace]
        split
        · simp [trace]
        · exact ih (now + poll.interval) s
  intro now s
  rw [Poll.waitFor, Poll.rounds_eq hp]
  exact hrounds (poll.ticks + 1) now now s

end Program

end Provisioner
