import Provisioner.Proofs.Bootstrap.Stages
import Provisioner.Proofs.Install.Approval
import Provisioner.Proofs.Install.Sequence
/-!
# The calls of installing the lifecycle manager

The calls of installing the manager are those of its stages, one stage after the other: all of them
when it succeeds, and otherwise those of the first ones and the first calls of one more.  A declared
subscription adds the calls of a bootstrap run; they leave plans alone unless the subscription asks
for approval by hand.
-/

namespace Provisioner.Install

open Program
open Manifest (Source)
open Text.Utf8 (Bytes)

variable {σ : Type} {h : Handler Platform σ} {poll : Poll} {ns : String} {now finish : Duration}
  {x y : σ} {log : List (Event Platform)} {o : Outcome σ Error Unit} {r : Resource}

/-! ## The approval mode of a declared subscription -/

/-- The approval mode that a declared subscription asks for: automatic unless it says another. -/
inductive Declares (r : Resource) : Approval → Prop
  | silent (absent : r.body.at? ["spec", "installPlanApproval"] = none) : Declares r .automatic
  | said {value : Json} {mode : Approval}
      (given : r.body.at? ["spec", "installPlanApproval"] = some value)
      (read : Approval.decode value = .ok mode) : Declares r mode

/-- The approval mode decides where a declared subscription begins. -/
lemma declares_of_bootstrapStart {s : InstallState} (hs : bootstrapStart r = .ok s) :
    (Declares r .automatic ∧ s = .installPlanApproved) ∨
      (Declares r .manual ∧ s = .subscriptionCreated) := by
  unfold bootstrapStart at hs
  split at hs
  · rename_i absent
    cases hs
    exact .inl ⟨.silent absent, rfl⟩
  · rename_i value given
    split at hs
    · rename_i read
      cases hs
      exact .inr ⟨.said given read, rfl⟩
    · rename_i read
      cases hs
      exact .inl ⟨.said given read, rfl⟩
    · cases hs

/-! ## The calls of a stage -/

/-- The calls of an install that is carried out from a state: the first ones of its sequence, and
all of them when it succeeds. -/
structure InstallCalls (h : Handler Platform σ) (poll : Poll) (run : InstallRun) (s : InstallState)
    (log : List (Event Platform)) (o : Outcome σ Error Unit) : Prop where
  made : ∃ now x, Runs h (carryOut poll run s) now x log o
  first : ∃ full, Sequence run s full ∧ log <+: full
  all : o.result = some (.ok ()) → Sequence run s log

lemma installCalls {run : InstallRun} {s : InstallState} (hs : Ready run s)
    (hr : Runs h (carryOut poll run s) now x log o) : InstallCalls h poll run s log o := by
  have hc := runs_carryOut hr
  obtain ⟨rest, hfull⟩ := hc.completable hs
  exact ⟨⟨now, x, hr⟩, ⟨_, hfull, List.prefix_append log rest⟩, hc.sequence⟩

/-- The calls of carrying a declared subscription through its install: those of a bootstrap run of
its namespace and name.  Under automatic approval it leaves plans alone; under approval by hand it
looks up and approves one plan at most. -/
inductive Carried (h : Handler Platform σ) (poll : Poll) (r : Resource)
    (log : List (Event Platform)) (o : Outcome σ Error Unit) : Prop
  | automatic {ns : String} (placed : r.ns = some ns) (mode : Declares r .automatic)
      (calls : InstallCalls h poll (.bootstrap ⟨ns, r.name⟩) .installPlanApproved log o)
      (unplanned : PlanFree log)
  | manual {ns : String} (placed : r.ns = some ns) (mode : Declares r .manual)
      (calls : InstallCalls h poll (.bootstrap ⟨ns, r.name⟩) .subscriptionCreated log o)
      (approval : OneApproval (.bootstrap ⟨ns, r.name⟩) log)

/-- What the wait for a rollout is called. -/
def rolloutWait (deployment : ObjectKey) : String := "rollout of deployment " ++ deployment.text

/-- A complete rollout decides the wait for it. -/
def rolledOut (found : Option Deployment) : Except Error (Option Unit) :=
  .ok (if found.any (·.isRolloutComplete) then some () else none)

/-- The calls of a stage that ends well. -/
inductive Stage.Calls (h : Handler Platform σ) (poll : Poll) (ns : String) :
    Stage → List (Event Platform) → Prop
  | apply {path : String} {manifest : Bytes} {start : Duration} :
      Calls h poll ns (.apply path manifest) [.ofCall (.applyManifest manifest) (.ok ()) start]
  | rollout {deployment : String} {now : Duration} {log : List (Event Platform)}
      {found : Deployment}
      (looks : Looks (.getDeployment ⟨ns, deployment⟩) rolledOut now log (.ok (some found)))
      (complete : found.isRolloutComplete = true) : Calls h poll ns (.rollout deployment) log
  | carry {r : Resource} {log : List (Event Platform)} {finish : Duration} {y : σ}
      (carried : Carried h poll r log ⟨some (.ok ()), finish, y⟩) :
      Calls h poll ns (.carry r) log

/-- The calls of a stage that does not end well. -/
inductive Stage.CutShort (h : Handler Platform σ) (poll : Poll) (ns : String) :
    Stage → List (Event Platform) → Prop
  | apply {path : String} {manifest : Bytes} {e : Error} {start : Duration} :
      CutShort h poll ns (.apply path manifest) [.ofCall (.applyManifest manifest) (.error e) start]
  | rollout {deployment : String} {now finish : Duration} {log : List (Event Platform)}
      {e : Error} (failure : WaitFailed poll (rolloutWait ⟨ns, deployment⟩)
        (.getDeployment ⟨ns, deployment⟩) rolledOut now now log e finish) :
      CutShort h poll ns (.rollout deployment) log
  | unended {deployment : String} {now : Duration} {log : List (Event Platform)}
      (unended : WaitOpen (.getDeployment ⟨ns, deployment⟩) rolledOut now log) :
      CutShort h poll ns (.rollout deployment) log
  | unplaced {r : Resource} (unplaced : r.ns = none) : CutShort h poll ns (.carry r) []
  | unknown {r : Resource} {e : Error} (unknown : bootstrapStart r = .error e) :
      CutShort h poll ns (.carry r) []
  | carry {r : Resource} {log : List (Event Platform)} {o : Outcome σ Error Unit}
      (carried : Carried h poll r log o) (stopped : o.result ≠ some (.ok ())) :
      CutShort h poll ns (.carry r) log
  | undeclared {cause : ManifestError} : CutShort h poll ns (.undeclared cause) []

/-! ## What each stage calls -/

lemma runs_applyFile {path : String} {manifest : Bytes}
    (hr : Runs h (applyFile path manifest) now x log o) :
    (log = [.ofCall (.applyManifest manifest) (.ok ()) now] ∧ o.result = some (.ok ())) ∨
    ∃ e e', log = [.ofCall (.applyManifest manifest) (.error e) now] ∧
      o.result = some (.error e') := by
  obtain ⟨reply, finish, y, rfl, rfl⟩ := runs_perform_mapError hr
  cases reply with
  | ok answer => exact .inl ⟨rfl, rfl⟩
  | error e => exact .inr ⟨e, _, rfl, rfl⟩

lemma waitForRollout_eq (poll : Poll) (deployment : ObjectKey) :
    waitForRollout poll deployment =
      poll.watch (rolloutWait deployment) (.getDeployment deployment) rolledOut := by
  unfold waitForRollout Poll.watch Poll.waitUntil rolloutWait
  refine congrArg (poll.waitFor _) ?_
  rw [bind_eq, bind_eq, bind_assoc]
  rfl

/-- Only a rollout that is complete ends the wait for it well. -/
lemma rolledOut_eq_some {answer : Option Deployment} {u : Unit}
    (hread : rolledOut answer = .ok (some u)) :
    ∃ found, answer = some found ∧ found.isRolloutComplete = true := by
  cases answer with
  | none => simp [rolledOut] at hread
  | some found => exact ⟨found, rfl, by simpa [rolledOut] using hread⟩

lemma runs_waitForRollout {deployment : String}
    (hr : Runs h (waitForRollout poll ⟨ns, deployment⟩) now x log o) :
    (o.result = some (.ok ()) ∧ Stage.Calls h poll ns (.rollout deployment) log) ∨
    (o.result ≠ some (.ok ()) ∧ Stage.CutShort h poll ns (.rollout deployment) log) := by
  rw [waitForRollout_eq] at hr
  cases runs_watch hr with
  | found looks decided =>
    obtain ⟨found, rfl, complete⟩ := rolledOut_eq_some decided
    exact .inl ⟨rfl, .rollout looks complete⟩
  | failed failure => exact .inr ⟨by simp, .rollout failure⟩
  | unended unended => exact .inr ⟨by simp, .unended unended⟩

/-- A declared subscription is carried through its install as its approval mode says. -/
lemma carried_of_runs {ns : String} {s : InstallState} (placed : r.ns = some ns)
    (hs : bootstrapStart r = .ok s)
    (hr : Runs h (carryOut poll (.bootstrap ⟨ns, r.name⟩) s) now x log o) :
    Carried h poll r log o := by
  have hc := runs_carryOut hr
  rcases declares_of_bootstrapStart hs with ⟨mode, rfl⟩ | ⟨mode, rfl⟩
  · exact .automatic placed mode (installCalls ⟨by simp, by simp⟩ hr) (hc.planFree (by decide))
  · exact .manual placed mode (installCalls ⟨by simp, by simp⟩ hr) hc.oneApproval

lemma runs_bootstrapSubscription
    (hr : Runs h (bootstrapSubscription poll r) now x log o) :
    (o.result ≠ some (.ok ()) ∧ log = [] ∧ (r.ns = none ∨ ∃ e, bootstrapStart r = .error e)) ∨
    Carried h poll r log o := by
  cases placed : r.ns with
  | none =>
    have hfail : ∃ e, bootstrapSubscription poll r = .fail e :=
      ⟨_, by rw [bootstrapSubscription, placed]⟩
    obtain ⟨e, hfail⟩ := hfail
    rw [hfail] at hr
    obtain ⟨rfl, rfl⟩ := runs_fail_iff.mp hr
    exact .inl ⟨by simp, rfl, .inl rfl⟩
  | some ns =>
    have hwork : bootstrapSubscription poll r =
        (ofExcept (bootstrapStart r)).bind fun s => carryOut poll (.bootstrap ⟨ns, r.name⟩) s := by
      rw [bootstrapSubscription, placed]
      rfl
    rw [hwork] at hr
    cases hs : bootstrapStart r with
    | error e =>
      rw [hs] at hr
      obtain ⟨rfl, rfl⟩ := runs_fail_iff.mp hr
      exact .inl ⟨by simp, rfl, .inr ⟨e, rfl⟩⟩
    | ok s =>
      rw [hs] at hr
      exact .inr (carried_of_runs placed hs hr)

/-- Every stage makes the calls that are listed for it. -/
theorem runs_stage {stage : Stage} (hr : Runs h (stage.work poll ns) now x log o) :
    (o.result = some (.ok ()) ∧ stage.Calls h poll ns log) ∨
    (o.result ≠ some (.ok ()) ∧ stage.CutShort h poll ns log) := by
  cases stage with
  | apply path manifest =>
    rcases runs_applyFile hr with ⟨rfl, ho⟩ | ⟨e, e', rfl, ho⟩
    · exact .inl ⟨ho, .apply⟩
    · exact .inr ⟨by simp [ho], .apply⟩
  | rollout deployment => exact runs_waitForRollout hr
  | carry r =>
    rcases runs_bootstrapSubscription hr with ⟨ho, rfl, hnone | ⟨e, he⟩⟩ | hcarried
    · exact .inr ⟨ho, .unplaced hnone⟩
    · exact .inr ⟨ho, .unknown he⟩
    · by_cases ho : o.result = some (.ok ())
      · obtain ⟨result, finish, y⟩ := o
        cases ho
        exact .inl ⟨rfl, .carry hcarried⟩
      · exact .inr ⟨ho, .carry hcarried ho⟩
  | undeclared cause =>
    obtain ⟨rfl, rfl⟩ := runs_fail_iff.mp hr
    exact .inr ⟨by simp, .undeclared⟩

/-! ## All stages -/

/-- The calls of stages in turn: those of all of them when they end well, and otherwise those of
the first ones and the first calls of the next. -/
structure InStages (h : Handler Platform σ) (poll : Poll) (ns : String) (stages : List Stage)
    (log : List (Event Platform)) (result : Option (Except Error Unit)) : Prop where
  all : result = some (.ok ()) →
    ∃ logs, List.Forall₂ (Stage.Calls h poll ns) stages logs ∧ log = logs.flatten
  first : result ≠ some (.ok ()) →
    ∃ done stage later logs last, stages = done ++ stage :: later ∧
      List.Forall₂ (Stage.Calls h poll ns) done logs ∧ stage.CutShort h poll ns last ∧
      log = logs.flatten ++ last

lemma AllEnd.stages {stages : List Stage} {logs : List (List (Event Platform))}
    (hall : AllEnd h (stages.map (Stage.work poll ns)) now x logs finish y) :
    List.Forall₂ (Stage.Calls h poll ns) stages logs := by
  refine hall.forall₂ fun stage _ now s log mid t hr => ?_
  rcases runs_stage hr with ⟨-, hcalls⟩ | ⟨ho, -⟩
  · exact hcalls
  · exact absurd rfl ho

lemma inStages_of_runs {stages : List Stage}
    (hr : Runs h (inTurn (stages.map (Stage.work poll ns))) now x log o) :
    InStages h poll ns stages log o.result := by
  obtain ⟨result, finish, y⟩ := o
  constructor
  · rintro rfl
    obtain ⟨logs, hall, rfl⟩ := runs_inTurn_ok_iff.mp hr
    exact ⟨logs, AllEnd.stages hall, rfl⟩
  · intro ho
    obtain ⟨done, p, rest, logs, mid, z, last, hstages, hall, hlast, rfl⟩ :=
      (runs_inTurn_stopped_iff ho).mp hr
    obtain ⟨first, later, rfl, rfl, hlater⟩ := List.map_eq_append_iff.mp hstages
    obtain ⟨stage, later, rfl, rfl, rfl⟩ := List.map_eq_cons_iff.mp hlater
    rcases runs_stage hlast with ⟨hok, -⟩ | ⟨-, hcut⟩
    · exact absurd hok ho
    · exact ⟨first, stage, later, logs, last, rfl, AllEnd.stages hall, hcut, rfl⟩

/-! ## Installing the manager -/

variable {source : Source}

/-- The calls of installing the manager, and how it ends.  Its first deployment is looked up, and
nothing is done when that is there or cannot be looked up.  When it is missing, nothing is done
unless all of the manifests can be read, and then what is left to do are their stages. -/
inductive ManagerCalls (h : Handler Platform σ) (poll : Poll) (source : Source) (ns : String) :
    List (Event Platform) → Option (Except Error Unit) → Prop
  | present {found : Deployment} {start : Duration} :
      ManagerCalls h poll source ns
        [.ofCall (.getDeployment ⟨ns, olmOperator⟩) (.ok (some found)) start] (some (.ok ()))
  | refused {e : Error} {start : Duration} :
      ManagerCalls h poll source ns
        [.ofCall (.getDeployment ⟨ns, olmOperator⟩) (.error e) start] (some (.error e))
  | unread {path : String} {e : Error} {start : Duration}
      (listed : path ∈ [Manifest.olmDefinitions, Manifest.olmComponents, Manifest.catalog])
      (unread : source path = .error e) :
      ManagerCalls h poll source ns
        [.ofCall (.getDeployment ⟨ns, olmOperator⟩) (.ok none) start] (some (.error e))
  | staged {m : Manifests} {rest : List (Event Platform)} {start : Duration}
      {result : Option (Except Error Unit)}
      (definitions : source Manifest.olmDefinitions = .ok m.definitions)
      (components : source Manifest.olmComponents = .ok m.components)
      (catalog : source Manifest.catalog = .ok m.catalog)
      (calls : InStages h poll ns m.stages rest result) :
      ManagerCalls h poll source ns
        (.ofCall (.getDeployment ⟨ns, olmOperator⟩) (.ok none) start :: rest) result

/-- What is done when the manager is missing, after its lookup. -/
lemma managerCalls_of_missing {mid : Duration}
    (hr : Runs h (installMissing poll source ns) mid x log o) :
    ManagerCalls h poll source ns
      (.ofCall (.getDeployment ⟨ns, olmOperator⟩) (.ok none) now :: log) o.result := by
  unfold installMissing at hr
  rcases Manifests.read_cases source with ⟨path, e, listed, unread, hread⟩ |
    ⟨m, definitions, components, catalog, hread⟩ <;> rw [hread] at hr
  · obtain ⟨rfl, rfl⟩ := runs_fail_iff.mp hr
    exact .unread listed unread
  · exact .staged definitions components catalog (inStages_of_runs hr)

lemma managerCalls_of_runs (hr : Runs h (installOlm poll source ns) now x log o) :
    ManagerCalls h poll source ns log o.result := by
  rw [installOlm_eq] at hr
  rcases runs_perform_bind hr with ⟨found, mid, y, rest, hrest, rfl⟩ | ⟨e, finish, y, rfl, rfl⟩
  · cases found with
    | some deployment =>
      obtain ⟨rfl, rfl⟩ := runs_done_iff.mp hrest
      exact .present
    | none => exact managerCalls_of_missing hrest
  · exact .refused

/-- **The calls of installing the manager.**  Whatever the cluster answers and whatever the
manifests hold, the calls and the end of installing the manager are those of one of the cases:
it is there, it cannot be looked up, a manifest cannot be read, or the stages of the manifests are
gone through in order, up to the first one that does not end well. -/
theorem installOlm_calls (h : Handler Platform σ) (poll : Poll) (source : Source) (ns : String)
    (now : Duration) (x : σ) :
    ManagerCalls h poll source ns (trace h (installOlm poll source ns) now x)
      (Program.run h (installOlm poll source ns) now x).result :=
  managerCalls_of_runs (runs_self h (installOlm poll source ns) now x)

end Provisioner.Install
