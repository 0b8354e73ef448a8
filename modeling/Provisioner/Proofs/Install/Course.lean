import Provisioner.Proofs.Install.Steps
/-!
# The course of an install

Carrying out an install is making one step after the other: `Course` unrolls it into the runs of
its steps.  What every step preserves is carried over to whole installs by induction on it.
-/

namespace Provisioner.Install

open Program

variable {σ : Type} {h : Handler Platform σ} {poll : Poll} {run : InstallRun} {s : InstallState}
  {now : Duration} {x : σ} {log : List (Event Platform)} {o : Outcome σ Error Unit}

/-- The failure of an install that starts where it can only be given up. -/
def startError (run : InstallRun) : Error :=
  .install run.subscription.name InstallState.failed.name "run started in a terminal failure state"

/-- An install, step by step, from a state on. -/
inductive Course (h : Handler Platform σ) (poll : Poll) (run : InstallRun) :
    InstallState → Duration → σ → List (Event Platform) → Outcome σ Error Unit → Prop
  | succeeded (now : Duration) (x : σ) :
      Course h poll run .succeeded now x [] ⟨some (.ok ()), now, x⟩
  | failed (now : Duration) (x : σ) :
      Course h poll run .failed now x [] ⟨some (.error (startError run)), now, x⟩
  | onward {s t : InstallState} {now mid : Duration} {x y : σ} {l₁ l₂ : List (Event Platform)}
      {o : Outcome σ Error Unit} (hs : s.isTerminal = false)
      (made : Runs h (step poll run s) now x l₁ ⟨some (.ok t), mid, y⟩)
      (rest : Course h poll run t mid y l₂ o) : Course h poll run s now x (l₁ ++ l₂) o
  | broken {s : InstallState} {now finish : Duration} {x y : σ} {log : List (Event Platform)}
      {e : Error} (hs : s.isTerminal = false)
      (made : Runs h (step poll run s) now x log ⟨some (.error e), finish, y⟩) :
      Course h poll run s now x log ⟨some (.error (inPhase run s e)), finish, y⟩
  | unended {s : InstallState} {now finish : Duration} {x y : σ} {log : List (Event Platform)}
      (hs : s.isTerminal = false)
      (made : Runs h (step poll run s) now x log ⟨none, finish, y⟩) :
      Course h poll run s now x log ⟨none, finish, y⟩

lemma carryOut_succeeded (poll : Poll) (run : InstallRun) :
    carryOut poll run .succeeded = .done () := by
  rw [carryOut]
  rfl

lemma carryOut_failed (poll : Poll) (run : InstallRun) :
    carryOut poll run .failed = .fail (startError run) := by
  rw [carryOut]
  rfl

/-- Before its end, an install goes on with the state that its step leads to. -/
lemma carryOut_eq_step (poll : Poll) (run : InstallRun) (hs : s.isTerminal = false) :
    carryOut poll run s =
      ((step poll run s).mapError (inPhase run s)).bind fun t => carryOut poll run t := by
  have hstep : step poll run s = (advance poll run s).bind fun next => .done next.val := rfl
  rw [carryOut, dif_neg (by simp [hs]), hstep, mapError_bind_done, Program.bind_assoc]
  rfl

/-- Each step leads to a state of lower rank. -/
lemma Progress.rank_lt {t : InstallState} (hp : Progress run s log t) : t.rank < s.rank := by
  cases hp <;> simp [InstallState.rank]

/-- An install runs as its steps do, one after the other. -/
theorem runs_carryOut (hr : Runs h (carryOut poll run s) now x log o) :
    Course h poll run s now x log o := by
  -- by the rank of the state, which every step lowers
  induction hrank : s.rank using Nat.strongRecOn generalizing s now x log o with
  | _ n ih =>
    cases hs : s.isTerminal with
    | true =>
      cases s with
      | succeeded =>
        rw [carryOut_succeeded] at hr
        obtain ⟨rfl, rfl⟩ := runs_done_iff.mp hr
        exact .succeeded now x
      | failed =>
        rw [carryOut_failed] at hr
        obtain ⟨rfl, rfl⟩ := runs_fail_iff.mp hr
        exact .failed now x
      | _ => cases hs
    | false =>
      rw [carryOut_eq_step poll run hs] at hr
      rcases runs_bind hr with ⟨t, mid, y, l₁, l₂, hmade, hrest, rfl⟩ |
        ⟨e, finish, y, hmade, rfl⟩ | ⟨finish, y, hmade, rfl⟩ <;>
        obtain ⟨⟨result, finish', y'⟩, hstep, ho⟩ := runs_mapError_iff.mp hmade <;>
        rcases result with _ | e' | t' <;> cases ho
      · cases runs_step hs hstep with
        | onward progress =>
          exact .onward hs hstep (ih t.rank (hrank ▸ progress.rank_lt) hrest rfl)
      · exact .broken hs hstep
      · exact .unended hs hstep

/-- An install makes only the calls of the states that it goes through, and these do not rise in
rank. -/
lemma Course.stepCall (hc : Course h poll run s now x log o) {e : Event Platform} (he : e ∈ log) :
    ∃ t call, t.rank ≤ s.rank ∧ StepCall run t call ∧ e.Asks call := by
  induction hc with
  | succeeded => cases he
  | failed => cases he
  | onward hs made rest ih =>
    have hstep := runs_step hs made
    rcases List.mem_append.mp he with he | he
    · obtain ⟨call, hcall⟩ := hstep.stepCall he
      exact ⟨_, call, Nat.le_refl _, hcall⟩
    · cases hstep with
      | onward progress =>
        obtain ⟨t, call, hrank, hcall⟩ := ih he
        exact ⟨t, call, Nat.le_trans hrank (Nat.le_of_lt progress.rank_lt), hcall⟩
  | broken hs made =>
    obtain ⟨call, hcall⟩ := (runs_step hs made).stepCall he
    exact ⟨_, call, Nat.le_refl _, hcall⟩
  | unended hs made =>
    obtain ⟨call, hcall⟩ := (runs_step hs made).stepCall he
    exact ⟨_, call, Nat.le_refl _, hcall⟩

/-! ## How an install ends -/

/-- A state from which an install can get to its end. -/
structure Ready (run : InstallRun) (s : InstallState) : Prop where
  not_failed : s ≠ .failed
  asked : s = .start → ∃ request, run.request = some request

/-- A step leads to a state from which an install can get to its end. -/
lemma Progress.ready {t : InstallState} (hp : Progress run s log t) : Ready run t := by
  cases hp <;> exact ⟨by simp, by simp⟩

/-- The install gets from one state to another by steps that succeed. -/
inductive Reaches (h : Handler Platform σ) (poll : Poll) (run : InstallRun) :
    InstallState → Duration → σ → InstallState → Duration → σ → Prop
  | refl (s : InstallState) (now : Duration) (x : σ) : Reaches h poll run s now x s now x
  | step {s t u : InstallState} {now mid later : Duration} {x y z : σ}
      (hs : s.isTerminal = false)
      (made : Program.run h (Install.step poll run s) now x = ⟨some (.ok t), mid, y⟩)
      (rest : Reaches h poll run t mid y u later z) : Reaches h poll run s now x u later z

/-- An install that succeeds has made the step out of its state, and succeeds from there. -/
lemma Course.progress (hc : Course h poll run s now x log o) (hs : s.isTerminal = false)
    (ho : o.result = some (.ok ())) :
    ∃ t mid y l₁ l₂, Progress run s l₁ t ∧ Course h poll run t mid y l₂ o ∧ log = l₁ ++ l₂ := by
  cases hc with
  | succeeded => cases hs
  | failed => cases hs
  | onward hs made rest =>
    cases runs_step hs made with
    | onward progress => exact ⟨_, _, _, _, _, progress, rest, rfl⟩
  | broken => cases ho
  | unended => cases ho

/-- Nothing is called after the end. -/
lemma Course.eq_nil (hc : Course h poll run s now x log o) (hs : s.isTerminal = true) :
    log = [] := by
  cases hc with
  | succeeded => rfl
  | failed => rfl
  | onward hns | broken hns | unended hns =>
    rw [hs] at hns
    cases hns

/-- An install that fails has reached a state whose step fails. -/
lemma Course.breakdown (hc : Course h poll run s now x log o) (hs : Ready run s) {e : Error}
    (ho : o.result = some (.error e)) :
    ∃ t mid y before last cause, Reaches h poll run s now x t mid y ∧ Ready run t ∧
      (Program.run h (step poll run t) mid y).result = some (.error cause) ∧
      Breakdown poll run t last cause o.finish ∧ log = before ++ last ∧
      e = inPhase run t cause := by
  induction hc with
  | succeeded => cases ho
  | failed => exact absurd rfl hs.not_failed
  | @onward s t now mid x y l₁ l₂ o hns made rest ih =>
    cases runs_step hns made with
    | onward progress =>
      obtain ⟨u, later, z, before, last, cause, hreaches, hready, hstep, hbreak, rfl, he⟩ :=
        ih progress.ready ho
      exact ⟨u, later, z, l₁ ++ before, last, cause, .step hns made.run_eq hreaches, hready, hstep,
        hbreak, by simp, he⟩
  | @broken s now finish x y log cause hns made =>
    cases ho
    cases runs_step hns made with
    | broken breakdown =>
      exact ⟨s, now, x, [], log, cause, .refl s now x, hs, by rw [made.run_eq], breakdown, rfl, rfl⟩
  | unended => cases ho

/-! ## A cluster that does as it is asked -/

/-- A subscription that names a plan and a service version. -/
def naming (plan version : String) : Subscription where
  metadata := { }
  spec := { source := "", sourceNamespace := "", package := "" }
  status := some {
    installPlan := some { name := plan }
    installedVersion := some version }

/-- A cluster without an operator group, in which every subscription has a plan that is not approved
and a service version that is installed. -/
def obliging : (call : Call) → Except Error call.Answer
  | .getOperatorGroup _ => .ok none
  | .createOperatorGroup key => .ok (OperatorGroup.ofKey key)
  | .createSubscription subscription => .ok subscription
  | .getSubscription _ => .ok (some (naming "install-1" "operator.v1"))
  | .getInstallPlan _ => .ok { metadata := { }, spec := { } }
  | .updateInstallPlan _ plan => .ok plan
  | .getServiceVersion _ =>
    .ok (some { metadata := { }, spec := { }, status := some { phase := some "Succeeded" } })
  | _ => .error (.notFound "")

/-- A request that asks to wait until the operator is installed. -/
def exampleRequest : InstallRequest where
  ns := "default"
  name := "operator"
  operatorGroup := "operators"
  catalogSource := "catalog"
  catalogSourceNamespace := "olm"
  channel := "stable"
  waitForCompletion := true

end Provisioner.Install
