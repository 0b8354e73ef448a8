import Provisioner.Proofs.Cluster.Looks
import Provisioner.Proofs.Install.Decisive
/-!
# What decides a wait

A wait goes by the first answer that decides it, if it asks for that before its deadline, and by
nothing else: how many answers that say nothing came before, which they were and when does not
matter (`decided_by_first_answer`).
-/

namespace Provisioner.Install.Wait

open Program

variable {σ σ' : Type} {poll : Poll} {h : Handler Platform σ} {now : Duration} {s : σ} {w : Wait}

/-! ## Waits by their looks -/

/-- What a wait is called. -/
def description : Wait → String
  | plan key => planWait key
  | version key => versionWait key
  | completion key => completionWait key
  | rollout key => rolloutWait key

/-- How a wait puts an error that ends it. -/
def explain : Wait → Error → Error
  | plan key => planError key
  | version _ | completion _ | rollout _ => id

/-- The error of a wait that ran out of time. -/
def expiry (poll : Poll) (w : Wait) : Error := w.explain (.timeout w.description poll.timeout)

/-- Every wait looks at its object until it takes an answer for an error or a value. -/
lemma work_eq (poll : Poll) (w : Wait) :
    w.work poll = (poll.watch w.description w.call w.reading).mapError w.explain := by
  cases w with
  | plan key => exact awaitInstallPlan_eq poll key
  | version key =>
    -- the wait is for a name, of which a key is made afterwards
    have hwatch := poll.watch_bind_done (versionWait key) (.getSubscription key) namedVersion
      (ObjectKey.mk key.ns)
    exact hwatch.trans (mapError_id _).symm
  | completion key => exact (awaitVersionSucceeded_eq poll key).trans (mapError_id _).symm
  | rollout key => exact (waitForRollout_eq poll key).trans (mapError_id _).symm

/-- Only the wait for a plan puts an error in its own words, and only a timeout, which is not what an
answer is taken for. -/
lemma explain_of_reading {answer : Except Error w.call.Answer} {e : Error}
    (plain : ∀ e, answer = .error e → e.isTimeout = false)
    (taken : answer.bind w.reading = .error e) : w.explain e = e := by
  cases w with
  | plan key =>
    cases answer with
    | error e' =>
      cases taken
      show planError key e = e
      simp [planError, plain e rfl]
    | ok found => cases taken
  | version key => rfl
  | completion key => rfl
  | rollout key => rfl

/-! ## The outcome of a wait -/

/-- What a wait comes to by what it takes the last answer for. -/
def verdict (poll : Poll) (w : Wait) : Except Error (Option w.Value) → Except Error w.Value
  | .ok (some value) => .ok value
  | .ok none => .error (w.expiry poll)
  | .error e => .error e

/-- A look decides a wait: its answer is not passed over, or the deadline is reached when it ends,
and neither is so of a look before it. -/
def DecidedAt (w : Wait) (poll : Poll) (h : Handler Platform σ) (now : Duration) (s : σ)
    (k : Nat) : Prop :=
  IsLeast {k | ¬ w.LeavesOpen (poll.answer h w.call now s k) ∨ poll.Overdue h w.call now s k} k ∧
    poll.Follows k

/-- A wait comes to its verdict on the answer that decides it. -/
lemma result_work {K : Nat} (decided : w.DecidedAt poll h now s K)
    (plain : ∀ e, poll.answer h w.call now s K = .error e → e.isTimeout = false) :
    (run h (w.work poll) now s).result =
      some (w.verdict poll ((poll.answer h w.call now s K).bind w.reading)) := by
  obtain ⟨first, follows⟩ := decided
  simp only [leavesOpen_iff] at first
  have hwatch := Poll.result_watch w.description first follows
  have hresult : (run h (w.work poll) now s).result =
      (run h (poll.watch w.description w.call w.reading) now s).result.map
        (Except.mapError w.explain) := by
    rw [work_eq, run_mapError]
    rfl
  rw [hresult, hwatch]
  rcases htaken : (poll.answer h w.call now s K).bind w.reading with e | _ | value
  · exact congrArg (some ∘ Except.error) (explain_of_reading plain htaken)
  · rfl
  · rfl

/-- A wait that nothing decides and whose deadline is never reached does not end. -/
lemma result_work_eq_none
    (undecided : ∀ k, w.LeavesOpen (poll.answer h w.call now s k))
    (never : ∀ k, ¬ poll.Overdue h w.call now s k) : (run h (w.work poll) now s).result = none := by
  simp only [leavesOpen_iff] at undecided
  have hwatch := Poll.result_watch_eq_none w.description undecided never
  rw [work_eq, run_mapError]
  exact congrArg (Option.map (Except.mapError w.explain)) hwatch

/-! ### The first answer that decides -/

/-- An answer decides a wait, all those before it say nothing, and the deadline is not reached when
it is asked for.  Where no time need pass between the looks, it is one of those that are followed. -/
structure ReadsFirst (w : Wait) (poll : Poll) (h : Handler Platform σ) (now : Duration) (s : σ)
    (n : Nat) (outcome : Except Error w.Value) : Prop where
  before : ∀ k < n, w.LeavesOpen (poll.answer h w.call now s k)
  decides : w.Decides (poll.answer h w.call now s n) outcome
  inTime : poll.InTime h w.call now s n
  follows : poll.Follows n

/-- No answer that is asked for before the deadline decides a wait, and the deadline is reached with
one that is followed. -/
structure ReadsNone (w : Wait) (poll : Poll) (h : Handler Platform σ) (now : Duration) (s : σ)
    (n : Nat) : Prop where
  before : ∀ k ≤ n, w.LeavesOpen (poll.answer h w.call now s k)
  inTime : poll.InTime h w.call now s n
  overdue : poll.Overdue h w.call now s n
  follows : poll.Follows n

/-- A wait comes to what the first answer that decides it says, or runs out of time without one. -/
structure GoesByFirst (w : Wait) (poll : Poll) (h : Handler Platform σ) (now : Duration) (s : σ) :
    Prop where
  decided : ∀ n outcome, w.ReadsFirst poll h now s n outcome →
    (run h (w.work poll) now s).result = some outcome
  expired : ∀ n, w.ReadsNone poll h now s n →
    (run h (w.work poll) now s).result = some (.error (w.expiry poll))
  endless : (∀ k, w.LeavesOpen (poll.answer h w.call now s k)) →
    (∀ k, ¬ poll.Overdue h w.call now s k) → (run h (w.work poll) now s).result = none
  /-- With an interval between the looks there is an answer that decides, or the time runs out. -/
  ends : poll.interval ≠ 0 →
    (∃ n outcome, w.ReadsFirst poll h now s n outcome) ∨ ∃ n, w.ReadsNone poll h now s n

lemma Decides.verdict_eq {answer : Except Error w.call.Answer} {outcome : Except Error w.Value}
    (hd : w.Decides answer outcome) : w.verdict poll (answer.bind w.reading) = outcome := by
  rw [decides_iff.mp hd]
  rcases outcome with e | value <;> rfl

/-- The look to decide a wait is one before which nothing is decided and the deadline not reached. -/
lemma decidedAt_of_before {n : Nat} (before : ∀ k < n, w.LeavesOpen (poll.answer h w.call now s k))
    (inTime : poll.InTime h w.call now s n) (follows : poll.Follows n)
    (last : ¬ w.LeavesOpen (poll.answer h w.call now s n) ∨ poll.Overdue h w.call now s n) :
    w.DecidedAt poll h now s n := by
  refine ⟨⟨last, fun k hk => ?_⟩, follows⟩
  by_contra hlt
  rcases hk with hdecided | hoverdue
  · exact hdecided (before k (by omega))
  · exact inTime k (by omega) hoverdue

lemma ReadsFirst.decidedAt {n : Nat} {outcome : Except Error w.Value}
    (hfirst : w.ReadsFirst poll h now s n outcome) : w.DecidedAt poll h now s n := by
  have hdecided : ¬ w.LeavesOpen (poll.answer h w.call now s n) :=
    fun hopen => hopen outcome hfirst.decides
  exact decidedAt_of_before hfirst.before hfirst.inTime hfirst.follows (.inl hdecided)

lemma ReadsNone.decidedAt {n : Nat} (hnone : w.ReadsNone poll h now s n) :
    w.DecidedAt poll h now s n :=
  decidedAt_of_before (fun k hk => hnone.before k (by omega)) hnone.inTime hnone.follows
    (.inr hnone.overdue)

/-- A look that decides a wait gives an answer that does, or else it is the one that ends with the
deadline reached. -/
lemma DecidedAt.reads {n : Nat} (decided : w.DecidedAt poll h now s n) :
    (∃ outcome, w.ReadsFirst poll h now s n outcome) ∨ w.ReadsNone poll h now s n := by
  obtain ⟨⟨hn, hleast⟩, follows⟩ := decided
  have hbefore : ∀ k < n, w.LeavesOpen (poll.answer h w.call now s k) ∧
      ¬ poll.Overdue h w.call now s k := by
    intro k hk
    have hnot : ¬ (¬ w.LeavesOpen (poll.answer h w.call now s k) ∨
        poll.Overdue h w.call now s k) := by
      intro hmem
      have hle := hleast hmem
      omega
    rwa [not_or, not_not] at hnot
  have inTime : poll.InTime h w.call now s n := fun k hk => (hbefore k hk).2
  by_cases hopen : w.LeavesOpen (poll.answer h w.call now s n)
  · refine .inr ⟨fun k hk => ?_, inTime, hn.resolve_left (not_not.mpr hopen), follows⟩
    rcases hk.lt_or_eq with hlt | rfl
    · exact (hbefore k hlt).1
    · exact hopen
  · obtain ⟨outcome, hdecides⟩ := not_forall_not.mp hopen
    exact .inl ⟨outcome, fun k hk => (hbefore k hk).1, hdecides, inTime, follows⟩

lemma result_of_readsFirst {n : Nat} {outcome : Except Error w.Value}
    (plain : ∀ k e, poll.answer h w.call now s k = .error e → e.isTimeout = false)
    (hfirst : w.ReadsFirst poll h now s n outcome) :
    (run h (w.work poll) now s).result = some outcome := by
  rw [result_work hfirst.decidedAt (plain n), hfirst.decides.verdict_eq]

/-- **A wait goes by its first decisive answer.**  Let no answer be the error of a wait that ran out
of time.  The first answer that decides a wait is what the wait comes to, if it is asked for before
the deadline: an error, evidence of what is waited for, or a service version that has failed.
Without such an answer the time runs out, as it does at the latest when there is an interval between
the looks.  Answers that say nothing make no difference: another wait for the same thing, which may
look at other times and be given other such answers, and more or fewer of them, comes to the same
when it is given the same answer in time. -/
theorem decided_by_first_answer (w : Wait) (poll : Poll) (h : Handler Platform σ) (now : Duration)
    (s : σ) (plain : ∀ k e, poll.answer h w.call now s k = .error e → e.isTimeout = false) :
    w.GoesByFirst poll h now s ∧
    ∀ (h' : Handler Platform σ') (now' : Duration) (s' : σ'),
      (∀ k e, poll.answer h' w.call now' s' k = .error e → e.isTimeout = false) →
      ∀ n n' outcome, w.ReadsFirst poll h now s n outcome →
        poll.answer h' w.call now' s' n' = poll.answer h w.call now s n →
        (∀ k < n', w.LeavesOpen (poll.answer h' w.call now' s' k)) →
        poll.InTime h' w.call now' s' n' → poll.Follows n' →
        (run h' (w.work poll) now' s').result = (run h (w.work poll) now s).result := by
  refine ⟨⟨fun n outcome => result_of_readsFirst plain, fun n hnone => ?_, result_work_eq_none,
    fun hp => ?_⟩, ?_⟩
  · have hopen := leavesOpen_iff.mp (hnone.before n le_rfl)
    rw [result_work hnone.decidedAt (plain n), hopen]
    rfl
  · -- the deadline is reached at the latest, so there is a first look that decides
    have hdecided : ∃ k, ¬ w.LeavesOpen (poll.answer h w.call now s k) ∨
        poll.Overdue h w.call now s k :=
      (poll.exists_overdue h w.call now s hp).imp fun k => .inr
    classical
    have hat : w.DecidedAt poll h now s (Nat.find hdecided) :=
      ⟨Nat.isLeast_find hdecided, fun hzero => absurd hzero hp⟩
    rcases hat.reads with ⟨outcome, hfirst⟩ | hnone
    · exact .inl ⟨_, outcome, hfirst⟩
    · exact .inr ⟨_, hnone⟩
  · intro h' now' s' plain' n n' outcome hfirst hsame before' inTime' follows'
    have hdecides : w.Decides (poll.answer h' w.call now' s' n') outcome := by
      rw [hsame]
      exact hfirst.decides
    have hfirst' : w.ReadsFirst poll h' now' s' n' outcome :=
      ⟨before', hdecides, inTime', follows'⟩
    rw [result_of_readsFirst plain' hfirst', result_of_readsFirst plain hfirst]

/-- A subscription that names its plan in the newer way. -/
def named (key : ObjectKey) : Subscription where
  metadata := { name := key.name }
  spec := { source := "community", sourceNamespace := "olm", package := key.name }
  status := some { installPlanRef := some { name := "install-7" } }

/-- A cluster in which subscriptions are missing for so many looks and name a plan after them. -/
def namingAfter (looks : Nat) : Handler Platform Nat
  | .cluster (.getSubscription key), _, n =>
    ⟨.ok (if n < looks then none else some (named key)), 0, n + 1⟩
  | .cluster _, _, n => ⟨.error (.notFound ""), 0, n⟩
  | .monitoring _, _, n => ⟨.error ⟨""⟩, 0, n⟩

lemma answer_namingAfter (poll : Poll) (looks : Nat) (key : ObjectKey) (k : Nat) :
    poll.answer (namingAfter looks) (plan key).call 0 0 k =
      .ok (if k < looks then none else some (named key)) := by
  have hstate : ((poll.looks (namingAfter looks) (plan key).call 0 0).beginning k).state = k := by
    induction k with
    | zero => rfl
    | succ k ih =>
      rw [Repeated.beginning_succ]
      exact congrArg (· + 1) ih
  rw [Poll.answer, hstate]
  rfl

lemma decides_named (key : ObjectKey) :
    (plan key).Decides (.ok (some (named key))) (.ok "install-7") := by
  refine .planNamed rfl (SubscriptionStatus.find?_eq_some_iff.mp ?_)
  decide

/-- Once a second for five seconds. -/
def brief : Poll := { interval := .ofSeconds 1, timeout := .ofSeconds 5 }

/-- A plan that is named at the third look, two seconds after the first, is what the wait comes to,
as it is when the first look finds it. -/
theorem decided_by_first_answer_named :
    (run (namingAfter 2) ((plan ⟨"db", "operator"⟩).work brief) 0 0).result =
        some (.ok "install-7") ∧
      (run (namingAfter 0) ((plan ⟨"db", "operator"⟩).work brief) 0 0).result =
        (run (namingAfter 2) ((plan ⟨"db", "operator"⟩).work brief) 0 0).result := by
  have plain : ∀ looks k e, brief.answer (namingAfter looks) (plan ⟨"db", "operator"⟩).call 0 0 k =
      .error e → e.isTimeout = false := by
    intro looks k e herror
    rw [answer_namingAfter] at herror
    cases herror
  have follows : ∀ k, brief.Follows k := fun k hzero => absurd hzero (by decide)
  have hfirst : (plan ⟨"db", "operator"⟩).ReadsFirst brief (namingAfter 2) 0 0 2
      (.ok "install-7") := by
    refine ⟨fun k hk => ?_, ?_, ?_, follows 2⟩
    · rw [answer_namingAfter, if_pos hk]
      exact leavesOpen_iff.mpr rfl
    · rw [answer_namingAfter, if_neg (by omega)]
      exact decides_named _
    · show ∀ i < 2, ¬ brief.Overdue (namingAfter 2) (.getSubscription ⟨"db", "operator"⟩) 0 0 i
      decide
  have hsame : brief.answer (namingAfter 0) (plan ⟨"db", "operator"⟩).call 0 0 0 =
      brief.answer (namingAfter 2) (plan ⟨"db", "operator"⟩).call 0 0 2 := by
    rw [answer_namingAfter, answer_namingAfter]
    rfl
  obtain ⟨hwait, hother⟩ :=
    decided_by_first_answer (plan ⟨"db", "operator"⟩) brief (namingAfter 2) 0 0 (plain 2)
  exact ⟨hwait.decided 2 _ hfirst,
    hother (namingAfter 0) 0 0 (plain 0) 2 0 _ hfirst hsame nofun nofun (follows 0)⟩

end Provisioner.Install.Wait
