import Mathlib.Algebra.BigOperators.Ring.List
import Provisioner.Proofs.Install.Bounds
import Provisioner.Proofs.Provision.Parts
/-!
# How long provisioning takes

Where answers take no time, provisioning a cluster takes the time of its waits and of the delays
between the attempts to apply a manifest.  There are three waits for the manager of operators, three
for each subscription that comes with it and three for each of the four operators, and nine
manifests that are retried.
-/

namespace Provisioner

open Program
open Manifest (Source)

variable {σ : Type} {h : Handler Platform σ} {poll : Poll} {source : Source}

namespace Install

/-! ## The manager of operators -/

/-- The subscriptions that come with the manager. -/
def bundled (source : Source) : List Resource :=
  match Manifests.read source with
  | .ok m => m.subscriptions.toOption.getD []
  | .error _ => []

/-- Waits of a stage, at most. -/
def Stage.waits : Stage → Nat
  | rollout _ => 1
  | carry _ => 3
  | apply _ _ | undeclared _ => 0

lemma endsWithin_bootstrapSubscription (instant : h.Instant) (ticks : poll.interval ≠ 0)
    (r : Resource) : EndsWithin h (3 * poll.span) (bootstrapSubscription poll r) := by
  unfold bootstrapSubscription
  split
  · exact endsWithin_fail h _ _
  · rename_i ns _
    rw [← Nat.zero_add (3 * poll.span)]
    refine (endsWithin_ofExcept h _ 0).bind fun s => ?_
    refine (endsWithin_carryOut instant ticks (.bootstrap ⟨ns, r.name⟩) s).mono ?_
    exact Nat.mul_le_mul_right poll.span s.waitsLeft_le

lemma endsWithin_stage (instant : h.Instant) (ticks : poll.interval ≠ 0) (ns : String)
    (stage : Stage) : EndsWithin h (stage.waits * poll.span) (stage.work poll ns) := by
  cases stage with
  | apply path manifest =>
    exact ((endsWithin_perform instant _).mapError _).mono (Nat.zero_le _)
  | rollout deployment =>
    rw [Stage.work, waitForRollout_eq, Stage.waits, Nat.one_mul]
    exact endsWithin_watch instant ticks _ _ _
  | carry r => exact endsWithin_bootstrapSubscription instant ticks r
  | undeclared cause => exact endsWithin_fail h _ _

/-- The waits of all stages are three, and three for each subscription that is declared. -/
lemma sum_waits_stages (m : Manifests) :
    (m.stages.map Stage.waits).sum ≤ 3 + 3 * (m.subscriptions.toOption.getD []).length := by
  unfold Manifests.stages
  cases m.subscriptions with
  | error cause => simp [Stage.waits, Except.toOption]
  | ok subscriptions =>
    have hcarry : ((subscriptions.map Stage.carry).map Stage.waits).sum =
        3 * subscriptions.length := by
      simp [Function.comp_def, Stage.waits, Nat.mul_comm]
    simp only [List.map_append, List.sum_append, hcarry, Except.toOption, Option.getD_some]
    simp only [List.map_cons, List.map_nil, List.sum_cons, List.sum_nil, Stage.waits]
    omega

theorem endsWithin_installOlm (instant : h.Instant) (ticks : poll.interval ≠ 0) (source : Source)
    (ns : String) :
    EndsWithin h ((3 + 3 * (bundled source).length) * poll.span) (installOlm poll source ns) := by
  rw [installOlm_eq, ← Nat.zero_add (_ * poll.span)]
  refine (endsWithin_perform instant _).bind fun found => ?_
  cases found with
  | some deployment => exact endsWithin_done h () _
  | none =>
    unfold installMissing bundled
    cases Manifests.read source with
    | error e => exact endsWithin_fail h e _
    | ok m =>
      have hstage : ∀ stage ∈ m.stages, EndsWithin h (stage.waits * poll.span) _ :=
        fun stage _ => endsWithin_stage instant ticks ns stage
      have hstages := endsWithin_inTurn hstage
      refine hstages.mono ?_
      have hsum : (m.stages.map fun stage => stage.waits * poll.span).sum =
          (m.stages.map Stage.waits).sum * poll.span := List.sum_map_mul_right _ _ _
      rw [hsum]
      exact Nat.mul_le_mul_right poll.span (sum_waits_stages m)

end Install

/-! ## Monitoring -/

namespace Monitoring

lemma endsWithin_applyFiles (instant : h.Instant) (retry : Retry) (source : Source)
    (paths : List String) :
    EndsWithin h (paths.length * ((retry.attempts - 1) * retry.delay.nanoseconds))
      (applyFiles retry source paths) := by
  induction paths with
  | nil => exact endsWithin_done h () _
  | cons path rest ih =>
    have hfile : EndsWithin h ((retry.attempts - 1) * retry.delay.nanoseconds)
        (applyFile retry source path) := by
      rw [← Nat.zero_add ((retry.attempts - 1) * _)]
      refine (endsWithin_ofExcept h (source path) 0).bind fun manifest => ?_
      exact ((endsWithin_perform instant (.applyManifest manifest)).retry retry).mapError _
    rw [List.length_cons, Nat.succ_mul, Nat.add_comm]
    exact hfile.bind fun _ => ih

lemma endsWithin_provision (instant : h.Instant) (settings : Settings) (source : Source)
    (suffix : UInt64) (login password address : String) :
    EndsWithin h (9 * ((settings.retry.attempts - 1) * settings.retry.delay.nanoseconds))
      (provision settings source suffix login password address) := by
  have happly : ∀ (f : Error → Error) r,
      EndsWithin h 0 ((Call.applyResource r).perform.mapError f) :=
    fun f r => (endsWithin_perform instant _).mapError f
  have hfiles := endsWithin_applyFiles instant settings.retry source Manifest.monitoring
  have hall := (happly (secretError (secretName suffix))
    (loginSecret (secretName suffix) settings.ns login password)).bind fun _ =>
      (happly agentError (agentResource (secretName suffix) settings.ns address)).bind fun _ =>
        hfiles.bind fun _ => endsWithin_done h (secretName suffix) 0
  rw [provision_eq]
  exact hall.mono (by simp [Manifest.monitoring])

lemma endsWithin_createKey (instant : h.Instant) (server : Server) (name : String)
    (key : Option String) : EndsWithin h 0 (createKey server name key) := by
  unfold createKey
  dsimp only
  split
  · exact endsWithin_ask (I := Platform) instant fun reply => endsWithin_ofExcept h _ 0
  · exact endsWithin_fail h _ 0

end Monitoring

/-! ## All of it -/

namespace Provision

open Install (bundled)

variable {config : Config} {numbers : Numbers}

/-- The subscriptions that are carried through their installs with the manager. -/
def driven (config : Config) (source : Source) : List Resource :=
  if config.installOlm then bundled source else []

/-- Nanoseconds of a part, at most. -/
def Part.time (config : Config) (source : Source) : Part → Nat
  | manager => (3 + 3 * (bundled source).length) * config.poll.span
  | operator _ => 3 * config.poll.span
  | monitoring => 9 * ((config.retry.attempts - 1) * config.retry.delay.nanoseconds)

lemma endsWithin_part (instant : h.Instant) (ticks : config.poll.interval ≠ 0)
    (numbers : Numbers) (part : Part) :
    EndsWithin h (part.time config source) (part.work config source numbers) := by
  cases part with
  | manager => exact Install.endsWithin_installOlm instant ticks source _
  | operator request =>
    exact Install.endsWithin_carryOut instant ticks (.install request) .start
  | monitoring =>
    have hkey := Monitoring.endsWithin_createKey instant config.monitoring.server
      (accountName numbers.account) none
    have hmonitoring : EndsWithin h (Part.monitoring.time config source)
        (monitoring config source numbers) := by
      unfold monitoring
      dsimp only
      split
      · exact endsWithin_fail h _ _
      · rw [← Nat.zero_add (Part.time config source .monitoring)]
        exact hkey.bind fun key => Monitoring.endsWithin_provision instant config.monitoringSettings
          source numbers.secret _ key _
    exact hmonitoring.bind fun _ => endsWithin_done h () 0

lemma sum_time_parts (config : Config) (source : Source) :
    ((parts config).map (Part.time config source)).sum ≤
      (15 + 3 * (driven config source).length) * config.poll.span +
        9 * (config.retry.attempts - 1) * config.retry.delay.nanoseconds := by
  have hretries : 9 * ((config.retry.attempts - 1) * config.retry.delay.nanoseconds) =
      9 * (config.retry.attempts - 1) * config.retry.delay.nanoseconds := (Nat.mul_assoc _ _ _).symm
  have hoperators : (config.operatorRequests.map fun _ => 3 * config.poll.span).sum =
      12 * config.poll.span := by
    simp only [Config.operatorRequests, Config.operators, List.map_cons, List.map_nil,
      List.sum_cons, List.sum_nil]
    omega
  have hmanager : ((if config.installOlm then [Part.manager] else []).map
      (Part.time config source)).sum ≤
      (3 + 3 * (driven config source).length) * config.poll.span := by
    unfold driven
    cases config.installOlm <;> simp [Part.time]
  have hmonitoring : ((if config.monitoring.enabled then [Part.monitoring] else []).map
      (Part.time config source)).sum ≤
      9 * ((config.retry.attempts - 1) * config.retry.delay.nanoseconds) := by
    cases config.monitoring.enabled <;> simp [Part.time]
  simp only [parts, operatorParts, List.map_append, List.map_map, List.sum_append] at *
  rw [Nat.add_mul] at hmanager ⊢
  have hsame : (config.operatorRequests.map (Part.time config source ∘ Part.operator)).sum =
      12 * config.poll.span := hoperators
  omega

lemma endsWithin_cluster (instant : h.Instant) (ticks : config.poll.interval ≠ 0)
    (source : Source) (numbers : Numbers) :
    EndsWithin h ((15 + 3 * (driven config source).length) * config.poll.span +
      9 * (config.retry.attempts - 1) * config.retry.delay.nanoseconds)
      (cluster config source numbers) := by
  rw [cluster_eq_inTurn]
  refine (endsWithin_inTurn fun part _ => endsWithin_part instant ticks numbers part).mono ?_
  exact sum_time_parts config source

/-- **Every run ends.**  Whatever the cluster and the monitoring server answer, as long as that
takes no time, provisioning ends, within the time of its waits and of the delays between attempts.
Each install ends after five transitions at most, within the time of three waits, and calls the
cluster once for each evaluation of these and five times besides. -/
theorem ends_in_time (instant : h.Instant) (positive : 0 < config.poll.interval) (source : Source)
    (numbers : Numbers) (now : Duration) (x : σ) :
    (Program.run h (cluster config source numbers) now x).EndedBy
        (now.nanoseconds + ((15 + 3 * (driven config source).length) * config.poll.span +
          9 * (max config.retry.maxAttempts.toNat 1 - 1) * config.retry.delay.nanoseconds)) ∧
      ∀ run s,
        ((∃ n, Install.MakesTransitions h config.poll run s now x n) ∧
          ∀ n, Install.MakesTransitions h config.poll run s now x n → n ≤ 5) ∧
        (Program.run h (Install.carryOut config.poll run s) now x).EndedBy
          (now.nanoseconds + 3 * config.poll.span) ∧
        (trace h (Install.carryOut config.poll run s) now x).length ≤
          3 * (config.poll.ticks + 1) + 5 := by
  have ticks : config.poll.interval ≠ 0 := by
    rintro hzero
    rw [hzero] at positive
    exact absurd positive (by decide)
  refine ⟨endsWithin_cluster instant ticks source numbers now x, fun run s => ⟨⟨?_, ?_⟩, ?_, ?_⟩⟩
  · exact Install.exists_makesTransitions instant ticks run s now x
  · exact fun n hn => hn.le_rank.trans s.rank_le
  · have hinstall := Install.endsWithin_carryOut instant ticks run s
    exact hinstall.mono (Nat.mul_le_mul_right _ s.waitsLeft_le) now x
  · have hinstall := Install.asksAtMost_carryOut h ticks run s
    exact hinstall.mono
      (Nat.add_le_add (Nat.mul_le_mul_right _ s.waitsLeft_le) s.callsLeft_le) now x

/-! ### A cluster that resolves nothing -/

/-- A cluster in which no subscription ever gets a plan. -/
def unresolved : (call : Call) → Except Error call.Answer
  | .getOperatorGroup _ => .ok none
  | .createOperatorGroup key => .ok (OperatorGroup.ofKey key)
  | .createSubscription subscription => .ok subscription
  | .getSubscription _ => .ok none
  | _ => .error (.notFound "")

/-- Operators alone, with waits that look every two seconds for five. -/
def operatorsOnly : Config where
  installOlm := false
  monitoring := { enabled := false }
  poll := { interval := .ofSeconds 2, timeout := .ofSeconds 5 }

/-- There the wait for the first plan is given up after six seconds, at the fourth look. -/
theorem ends_in_time_unresolved :
    (answering unresolved).Instant ∧ 0 < operatorsOnly.poll.interval ∧
      (Program.run (answering unresolved)
        (cluster operatorsOnly (Manifest.Source.ofFiles []) ⟨0, 0⟩) 0 ()).EndedBy 270000000000 ∧
      (Program.run (answering unresolved)
        (cluster operatorsOnly (Manifest.Source.ofFiles []) ⟨0, 0⟩) 0 ()).finish =
          .ofSeconds 6 := by
  have hinstant : (answering unresolved).Instant := by
    intro op now x
    cases op <;> rfl
  have hpositive : 0 < operatorsOnly.poll.interval := by decide
  obtain ⟨hended, -⟩ := ends_in_time hinstant hpositive (Manifest.Source.ofFiles []) ⟨0, 0⟩ 0 ()
  exact ⟨hinstant, hpositive, hended, by decide +kernel⟩

end Provision

end Provisioner
