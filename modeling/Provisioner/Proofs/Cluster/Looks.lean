import Provisioner.Proofs.Cluster.Watch
import Provisioner.Proofs.Program.Polling
/-!
# The looks of a wait

A wait that looks at one object looks at it again and again, an interval apart.  `answer k` is what
look `k` is answered when nothing stops the looks before it.  The wait goes by the first answer that
it does not pass over, or at the end of whose look the deadline is reached (`result_watch`); when
there is none it does not end (`result_watch_eq_none`).
-/

namespace Provisioner

open Program

namespace Poll

variable {σ α β : Type} {poll : Poll} {h : Handler Platform σ} {call : Call} {now : Duration} {s : σ}
  {read : call.Answer → Except Error (Option α)}

/-! ### Values that are changed -/

lemma waitRounds_bind_done (f : α → β) (description : String)
    (check : Work (Option α)) (start : Duration) (n : Nat) :
    ((poll.waitRounds description check start n).bind fun value => .done (f value)) =
      poll.waitRounds description (check.bind fun value? => .done (value?.map f)) start n := by
  induction n with
  | zero => rfl
  | succ n ih =>
    rw [waitRounds, waitRounds, bind_eq, bind_eq, bind_assoc, bind_assoc]
    refine congrArg (Program.bind check) (funext fun value? => ?_)
    cases value? with
    | some value => rfl
    | none =>
      -- the clock is read as before, and the error of the deadline is the same
      refine congrArg Program.clock (funext fun now => ?_)
      show Program.bind (if poll.timeout ≤ now - start then _ else _) _ = _
      split
      · rfl
      · exact congrArg (Program.sleep poll.interval) ih

/-- What a wait gives can be changed as it is read. -/
lemma watch_bind_done (poll : Poll) (description : String) (call : Call)
    (read : call.Answer → Except Error (Option α)) (f : α → β) :
    ((poll.watch description call read).bind fun value => .done (f value)) =
      poll.watch description call fun answer => (read answer).map (·.map f) := by
  unfold watch waitFor
  refine congrArg Program.clock (funext fun start => ?_)
  refine (waitRounds_bind_done f description _ start poll.rounds).trans ?_
  rw [bind_assoc]
  refine congrArg (waitRounds poll description · start poll.rounds) ?_
  refine congrArg (Program.bind call.perform) (funext fun answer => ?_)
  show _ = Program.ofExcept ((read answer).map (·.map f))
  cases read answer <;> rfl

/-! ### The answers -/

/-- The looks at an object from a point on, an interval apart. -/
def looks (poll : Poll) (h : Handler Platform σ) (call : Call) (now : Duration) (s : σ) :
    Repeated Platform σ Error call.Answer :=
  poll.evaluations h call.perform now s

/-- The answer to look `k`. -/
def answer (poll : Poll) (h : Handler Platform σ) (call : Call) (now : Duration) (s : σ)
    (k : Nat) : Except Error call.Answer :=
  (h (.cluster call) ((poll.looks h call now s).beginning k).time
    ((poll.looks h call now s).beginning k).state).reply

/-- The deadline is reached when look `k` ends. -/
def Overdue (poll : Poll) (h : Handler Platform σ) (call : Call) (now : Duration) (s : σ)
    (k : Nat) : Prop :=
  poll.timeout ≤ ((poll.looks h call now s).outcome k).finish - now

instance (poll : Poll) (h : Handler Platform σ) (call : Call) (now : Duration) (s : σ) (k : Nat) :
    Decidable (poll.Overdue h call now s k) :=
  inferInstanceAs (Decidable (_ ≤ _))

/-- Look `k` is made before the deadline: no look before it ends with the deadline reached. -/
def InTime (poll : Poll) (h : Handler Platform σ) (call : Call) (now : Duration) (s : σ)
    (k : Nat) : Prop :=
  ∀ i < k, ¬ poll.Overdue h call now s i

lemma result_looks (k : Nat) :
    ((poll.looks h call now s).outcome k).result = some (poll.answer h call now s k) := by
  simp only [Repeated.outcome, answer]
  show (run h call.perform _ _).result = _
  rw [Call.perform, run]
  cases (h (.cluster call) ((poll.looks h call now s).beginning k).time
    ((poll.looks h call now s).beginning k).state).reply <;> rfl

/-- A look comes to what its answer is taken for. -/
lemma result_read_looks (k : Nat) :
    (((poll.looks h call now s).outcome k).read read).result =
      some ((poll.answer h call now s k).bind read) := by
  rw [Outcome.read, result_looks]
  rfl

/-- A wait that looks at an object goes by the first answer that it does not pass over, or at the
end of whose look the deadline is reached. -/
lemma result_watch (description : String) {K : Nat}
    (first : IsLeast {k | (poll.answer h call now s k).bind read ≠ .ok none ∨
      poll.Overdue h call now s k} K) (follows : poll.Follows K) :
    (run h (poll.watch description call read) now s).result =
      poll.closing description (some ((poll.answer h call now s K).bind read)) := by
  have hset : {k | (poll.answer h call now s k).bind read ≠ .ok none ∨
      poll.Overdue h call now s k} =
      {k | poll.IsLast now (((poll.looks h call now s).outcome k).read read)} := by
    ext k
    simp only [Set.mem_ofPred_eq, IsLast, result_read_looks, ne_eq, Option.some.injEq]
    rfl
  have hwaits := waits_reading poll description h call.perform read now s
  have hrun := (hwaits.closes K (hset ▸ first) follows).run_eq
  rw [← result_read_looks]
  exact congrArg Outcome.result hrun

/-- A wait all of whose answers are passed over before the deadline does not end. -/
lemma result_watch_eq_none (description : String)
    (undecided : ∀ k, (poll.answer h call now s k).bind read = .ok none)
    (never : ∀ k, ¬ poll.Overdue h call now s k) :
    (run h (poll.watch description call read) now s).result = none := by
  have hwaits := waits_reading poll description h call.perform read now s
  refine hwaits.endless fun k => ?_
  rw [not_isLast_iff]
  have hresult : (((poll.looks h call now s).outcome k).read read).result = some (.ok none) := by
    rw [result_read_looks, undecided k]
  exact ⟨hresult, never k⟩

/-- With an interval between the looks, the deadline is reached at the end of one of them. -/
lemma exists_overdue (h : Handler Platform σ) (call : Call) (now : Duration) (s : σ)
    (hp : poll.interval ≠ 0) : ∃ k, poll.Overdue h call now s k :=
  ⟨poll.ticks, timeout_le_elapsed hp⟩

end Poll

end Provisioner
