import Mathlib.Order.Bounds.Defs
import Provisioner.Proofs.Program.Repetition
/-!
# The course of a retried operation

A retried operation is attempted until an attempt does not fail, but only so often.  Between two
attempts there is one delay, and the outcome is that of the last attempt.  That is all that the
attempts of an operation have to do with each other, so the course of a retry is told by the number
of its last attempt (`attempts_course`).  Counting the attempts in a word of 32 bits, as a machine
does, never runs past the word (`counting_eq`).
-/

namespace Provisioner

/-- An outcome that is an error. -/
def Outcome.Fails {σ ε α : Type} (o : Outcome σ ε α) : Prop := ∃ e, o.result = some (.error e)

namespace Program

variable {I : Interface} {σ ε ε' ε'' α : Type}

/-! ### Handling errors -/

lemma pauses_handle (h : Handler I σ) (p : Program I ε α) (g : ε → Program I ε' α)
    (now : Duration) (s : σ) :
    pauses h (p.handle g) now s = pauses h p now s ++
      match run h p now s with
      | ⟨some (.error error), mid, t⟩ => pauses h (g error) mid t
      | _ => [] := by
  induction p generalizing now s with
  | done value => rfl
  | fail error => rfl
  | stall => rfl
  | ask op next ih => exact ih _ _ _
  | clock next ih => exact ih _ _ _
  | sleep length next ih => exact congrArg _ (ih _ _)

lemma handle_handle (p : Program I ε α) (f : ε → Program I ε' α) (g : ε' → Program I ε'' α) :
    (p.handle f).handle g = p.handle fun e => (f e).handle g := by
  induction p with
  | done value => rfl
  | fail error => rfl
  | stall => rfl
  | ask op next ih => exact congrArg (Program.ask op) (funext ih)
  | clock next ih => exact congrArg Program.clock (funext ih)
  | sleep length next ih => exact congrArg (Program.sleep length) ih

end Program

namespace Retry

open Program

variable {I : Interface} {σ ε α : Type} {r : Retry} {h : Handler I σ} {operation : Program I ε α}
  {now : Duration} {s : σ}

/-- The attempts of an operation from a point on, a delay apart. -/
def tries (r : Retry) (h : Handler I σ) (operation : Program I ε α) (now : Duration) (s : σ) :
    Repeated I σ ε α :=
  ⟨h, operation, r.delay, now, s⟩

/-! ### The attempts that are made -/

/-- An attempt that does not fail is the last one. -/
lemma makesUp_lastAttempt (n : Nat) (succeeds : ¬ (Program.run h operation now s).Fails) :
    (r.tries h operation now s).MakesUp 0 (r.retrying operation (n + 1))
      (Program.run h operation now s).result := by
  rcases hrun : Program.run h operation now s with ⟨_ | error | value, finish, t⟩ <;> rw [hrun] at succeeds
  case some.error => exact absurd ⟨error, rfl⟩ succeeds
  all_goals
    refine .first ?_ ?_ ?_ <;>
      simp [tries, Repeated.calls, Repeated.sleeps, Repeated.outcome, retrying, trace_handle,
        pauses_handle, run_handle, hrun]

/-- After an attempt that fails comes a delay, and then the attempts that are left. -/
lemma makesUp_nextAttempt {n K : Nat} {e : ε} {mid : Duration} {t : σ}
    {result : Option (Except ε α)} (fails : Program.run h operation now s = ⟨some (.error e), mid, t⟩)
    (rest : (r.tries h operation (mid + r.delay) t).MakesUp K (r.retrying operation n) result) :
    (r.tries h operation now s).MakesUp (K + 1) (r.retrying operation (n + 1)) result := by
  have hlater : (r.tries h operation now s).later = r.tries h operation (mid + r.delay) t := by
    simp [tries, Repeated.later, Repeated.beginning, fails]
  rw [← hlater] at rest
  refine rest.next ?_ ?_ ?_ <;> rw [hlater] <;>
    simp [tries, Repeated.calls, Repeated.sleeps, retrying, trace_handle, pauses_handle,
      run_handle, fails, trace, pauses, Program.run]

/-- With `n` attempts to make after the first, the first attempt that does not fail is the last one
that is made, or else the one after which none is left. -/
lemma makesUp_retrying {n K : Nat} (hK : K ≤ n)
    (before : ∀ k < K, ((r.tries h operation now s).outcome k).Fails)
    (last : K < n → ¬ ((r.tries h operation now s).outcome K).Fails) :
    (r.tries h operation now s).MakesUp K (r.retrying operation n)
      ((r.tries h operation now s).outcome K).result := by
  induction n generalizing now s K with
  | zero =>
    obtain rfl : K = 0 := by omega
    exact .first rfl rfl rfl
  | succ n ih =>
    cases K with
    | zero => exact makesUp_lastAttempt n (last (Nat.succ_pos n))
    | succ K =>
      obtain ⟨e, he⟩ := before 0 (Nat.succ_pos K)
      have hfails : Program.run h operation now s = ⟨some (.error e), (Program.run h operation now s).finish,
          (Program.run h operation now s).state⟩ := by rw [← he]; rfl
      have hlater : ∀ k, (r.tries h operation now s).outcome (k + 1) =
          (r.tries h operation ((Program.run h operation now s).finish + r.delay)
            (Program.run h operation now s).state).outcome k :=
        fun k => ((r.tries h operation now s).outcome_later k).symm
      rw [hlater] at last ⊢
      refine makesUp_nextAttempt hfails (ih (by omega) (fun k hk => ?_) fun hlt => last (by omega))
      rw [← hlater]
      exact before (k + 1) (by omega)

lemma one_le_attempts (r : Retry) : 1 ≤ r.attempts := Nat.le_max_right _ _

/-- The attempts of a retry are those up to the first that does not fail, as far as there are so
many. -/
lemma makesUp_run {j : Nat} (before : ∀ k < j, ((r.tries h operation now s).outcome k).Fails)
    (last : j < r.attempts - 1 → ¬ ((r.tries h operation now s).outcome j).Fails) :
    (r.tries h operation now s).MakesUp (min j (r.attempts - 1)) (r.run operation)
      ((r.tries h operation now s).outcome (min j (r.attempts - 1))).result := by
  refine makesUp_retrying (Nat.min_le_right _ _) (fun k hk => before k (by omega)) fun hlt => ?_
  have hj : min j (r.attempts - 1) = j := by omega
  rw [hj] at hlt ⊢
  exact last hlt

/-- A retry is as many attempts as it takes, and ends as the last one does. -/
lemma exists_makesUp_run (r : Retry) (h : Handler I σ) (operation : Program I ε α)
    (now : Duration) (s : σ) :
    ∃ last < r.attempts, (r.tries h operation now s).MakesUp last (r.run operation)
      ((r.tries h operation now s).outcome last).result := by
  classical
  have hone := r.one_le_attempts
  by_cases hends : ∃ k, ¬ ((r.tries h operation now s).outcome k).Fails
  · have hbefore : ∀ k < Nat.find hends, ((r.tries h operation now s).outcome k).Fails :=
      fun k hk => not_not.mp (Nat.find_min hends hk)
    exact ⟨_, by omega, makesUp_run hbefore fun _ => Nat.find_spec hends⟩
  · have hfails : ∀ k, ((r.tries h operation now s).outcome k).Fails :=
      fun k => by_contra fun hk => hends ⟨k, hk⟩
    have hall := makesUp_run (fun k _ => hfails k) fun hlt => absurd hlt (Nat.lt_irrefl _)
    exact ⟨_, by omega, hall⟩

/-! ### Counting in 32 bits -/

lemma toNat_next {made : UInt32} (fits : made.toNat + 1 < UInt32.size) :
    (made + 1).toNat = made.toNat + 1 := by
  rw [UInt32.toNat_add]
  exact Nat.mod_eq_of_lt fits

/-- The attempts of an operation with the number of those made so far kept in a word of 32 bits; a
count that does not fit in the word ends them with no error of the operation. -/
def counting (r : Retry) (operation : Program I ε α) (made : UInt32) : Program I (Option ε) α :=
  if fits : made.toNat + 1 < UInt32.size then
    operation.handle fun e =>
      if max r.maxAttempts 1 ≤ made + 1 then .fail (some e)
      else .sleep r.delay (counting r operation (made + 1))
  else .fail none
termination_by UInt32.size - made.toNat
decreasing_by
  have hnext := toNat_next fits
  omega

lemma attempts_eq_toNat (r : Retry) : r.attempts = (max r.maxAttempts 1).toNat :=
  (UInt32.toNat_max r.maxAttempts 1).symm

lemma attempts_lt_size (r : Retry) : r.attempts < UInt32.size := by
  rw [attempts_eq_toNat]
  exact (max r.maxAttempts 1).toNat_lt

/-- Whatever number of attempts is allowed, their count fits in the word at every attempt. -/
lemma counting_eq {made : UInt32} {n : Nat} (hleft : made.toNat + 1 + n = r.attempts) :
    r.counting operation made = (r.retrying operation n).mapError some := by
  have hlt := r.attempts_lt_size
  induction n generalizing made with
  | zero =>
    have hfits : made.toNat + 1 < UInt32.size := by omega
    have hreached : max r.maxAttempts 1 ≤ made + 1 := by
      rw [UInt32.le_iff_toNat_le, ← attempts_eq_toNat, toNat_next hfits]
      omega
    rw [counting, dif_pos hfits]
    simp only [if_pos hreached]
    rfl
  | succ n ih =>
    have hfits : made.toNat + 1 < UInt32.size := by omega
    have hnext := toNat_next hfits
    have hleft' : ¬ max r.maxAttempts 1 ≤ made + 1 := by
      rw [UInt32.le_iff_toNat_le, ← attempts_eq_toNat, hnext]
      omega
    have hrest := ih (show (made + 1).toNat + 1 + n = r.attempts by omega)
    rw [counting, dif_pos hfits]
    simp only [if_neg hleft', hrest]
    exact (handle_handle operation (fun _ => .sleep r.delay (r.retrying operation n))
      fun e => .fail (some e)).symm

/-- **The course of a retry.**  Attempt `0` begins with the retry, and every other one a delay after
the end of the one before it.  Let the first attempt that does not fail be the one of number `j`,
whatever the attempts come to and however long they take: the attempts that are made are those up
to `j`, or as many as the policy allows if those are fewer, and all that it allows if every attempt
fails.  Between two attempts there is one pause, of the delay; there is none before the first and
none after the last, with which the retry ends, and as which.  So its time is that of the attempts
and of one delay less than there are attempts.  Their count fits in 32 bits all along. -/
theorem attempts_course (r : Retry) (h : Handler I σ) (operation : Program I ε α) (now : Duration)
    (s : σ) :
    (∀ j, IsLeast {k | ¬ ((r.tries h operation now s).outcome k).Fails} j →
      (r.tries h operation now s).MakesUp (min j (r.attempts - 1)) (r.run operation)
        ((r.tries h operation now s).outcome (min j (r.attempts - 1))).result) ∧
    ((∀ k, ((r.tries h operation now s).outcome k).Fails) →
      (r.tries h operation now s).MakesUp (r.attempts - 1) (r.run operation)
        ((r.tries h operation now s).outcome (r.attempts - 1)).result) ∧
    (∀ last, ((r.tries h operation now s).outcome last).finish.nanoseconds =
      now.nanoseconds +
        (∑ k ∈ Finset.range (last + 1), ((r.tries h operation now s).took k).nanoseconds) +
        last * r.delay.nanoseconds) ∧
    r.counting operation 0 = (r.run operation).mapError some := by
  refine ⟨fun j first => ?_, fun fail => ?_, (r.tries h operation now s).finish_eq_sum, ?_⟩
  · refine makesUp_run (fun k hk => ?_) fun _ => first.1
    by_contra hsucceeds
    have hle := first.2 hsucceeds
    omega
  · have hall := makesUp_run (j := r.attempts - 1) (fun k _ => fail k)
      fun hlt => absurd hlt (by omega)
    rwa [Nat.min_self] at hall
  · have hone := r.one_le_attempts
    exact counting_eq (by rw [UInt32.toNat_zero]; omega)

/-- No attempts are one, and as many as a word can count are all made. -/
example : ({ maxAttempts := 0, delay := 0 } : Retry).attempts = 1 ∧
    ({ maxAttempts := 0xFFFFFFFF, delay := 0 } : Retry).attempts = 0xFFFFFFFF := by decide

end Retry

end Provisioner
