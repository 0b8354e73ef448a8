import Provisioner.Proofs.Bootstrap.Calls
import Provisioner.Proofs.Monitoring.Calls
/-!
# The parts of provisioning

Provisioning a cluster is a fixed list of parts in turn: the manager of operators if it is wanted,
one install for each operator, and monitoring if it is wanted.  Each part has calls of its own, by
which it can be told where a call comes from.
-/

namespace Provisioner

open Program
open Install (StepCall)
open Manifest (Source)

variable {σ : Type} {h : Handler Platform σ} {now : Duration} {x : σ} {log : List (Event Platform)}
  {o : Outcome σ Error Unit} {config : Config} {source : Source} {numbers : Provision.Numbers}

namespace Provision

/-- A part of provisioning. -/
inductive Part where
  /-- Install the manager of operators. -/
  | manager
  /-- Install an operator. -/
  | operator (request : InstallRequest)
  /-- Put monitoring in place. -/
  | monitoring

/-- The work of a part. -/
def Part.work (config : Config) (source : Source) (numbers : Numbers) : Part → Work Unit
  | manager => Install.installOlm config.poll source config.catalogSourceNamespace
  | operator request => Install.installOperator config.poll request
  | monitoring => (Provision.monitoring config source numbers).bind fun _ => .done ()

/-- The parts that come before monitoring. -/
def operatorParts (config : Config) : List Part :=
  (if config.installOlm then [.manager] else []) ++ config.operatorRequests.map .operator

/-- The parts of provisioning in order. -/
def parts (config : Config) : List Part :=
  operatorParts config ++ if config.monitoring.enabled then [.monitoring] else []

/-! ## Provisioning is the parts in turn -/

lemma installAll_eq_inTurn (poll : Poll) (requests : List InstallRequest) :
    installAll poll requests = inTurn (requests.map (Install.installOperator poll)) := by
  induction requests with
  | nil => rfl
  | cons request rest ih => rw [List.map_cons, inTurn_cons, ← ih]; rfl

theorem cluster_eq_inTurn (config : Config) (source : Source) (numbers : Numbers) :
    cluster config source numbers =
      inTurn ((parts config).map (Part.work config source numbers)) := by
  have hoperators : (config.operatorRequests.map Part.operator).map
      (Part.work config source numbers) =
      config.operatorRequests.map (Install.installOperator config.poll) := by
    rw [List.map_map]
    rfl
  have hafter : (installAll config.poll config.operatorRequests).bind (fun _ =>
        if config.monitoring.enabled then
          (monitoring config source numbers).bind fun _ => .done ()
        else .done ()) =
      inTurn ((config.operatorRequests.map Part.operator ++
        if config.monitoring.enabled then [Part.monitoring] else []).map
          (Part.work config source numbers)) := by
    rw [List.map_append, inTurn_append, hoperators, installAll_eq_inTurn]
    refine congrArg _ (funext fun _ => ?_)
    cases config.monitoring.enabled with
    | true => exact (bind_done _).symm
    | false => rfl
  unfold cluster parts operatorParts
  cases config.installOlm with
  | true => exact congrArg (Program.bind _) (funext fun _ => hafter)
  | false => exact hafter

/-! ## The calls of each part -/

/-- The operations that a part can ask for. -/
inductive Part.Asks (config : Config) : Part → PlatformOp → Prop
  | deployment {name : String} :
      Asks config .manager (.cluster (.getDeployment ⟨config.catalogSourceNamespace, name⟩))
  | manifest {bytes : Text.Utf8.Bytes} : Asks config .manager (.cluster (.applyManifest bytes))
  | bootstrap {subscription : ObjectKey} {s : InstallState} {call : Call}
      (made : StepCall (.bootstrap subscription) s call) : Asks config .manager (.cluster call)
  | install {request : InstallRequest} {s : InstallState} {call : Call}
      (made : StepCall (.install request) s call) : Asks config (.operator request) (.cluster call)
  | key {request : Http.Request} : Asks config .monitoring (.monitoring request)
  | resource {resource : Resource} : Asks config .monitoring (.cluster (.applyResource resource))
  | stack {bytes : Text.Utf8.Bytes} : Asks config .monitoring (.cluster (.applyManifest bytes))

lemma Part.Asks.of_asks {part : Part} {call : Call} {e : Event Platform}
    (hasks : part.Asks config (.cluster call)) (he : e.Asks call) : part.Asks config e.op := by
  obtain ⟨reply, start, rfl⟩ := he
  exact hasks

/-- An install of the manager's makes only the calls of its steps. -/
lemma asks_of_carried {poll : Poll} {r : Resource} (hc : Install.Carried h poll r log o) :
    ∀ e ∈ log, Part.manager.Asks config e.op := by
  have hbootstrap : ∀ {ns : String} {s : InstallState},
      Install.InstallCalls h poll (.bootstrap ⟨ns, r.name⟩) s log o →
      ∀ e ∈ log, Part.manager.Asks config e.op := by
    intro ns s hcalls e he
    obtain ⟨start, y, hr⟩ := hcalls.made
    obtain ⟨t, call, -, hcall, hasks⟩ := (Install.runs_carryOut hr).stepCall he
    exact .of_asks (.bootstrap hcall) hasks
  cases hc with
  | automatic placed mode calls unplanned => exact hbootstrap calls
  | manual placed mode calls approval => exact hbootstrap calls

variable {stage : Install.Stage} {stages : List Install.Stage}

lemma asks_of_calls (hc : stage.Calls h config.poll config.catalogSourceNamespace log) :
    ∀ e ∈ log, Part.manager.Asks config e.op := by
  cases hc with
  | apply =>
    intro e he
    rw [List.mem_singleton.mp he]
    exact .manifest
  | rollout looks complete => exact fun e he => .of_asks .deployment (looks.forall_asks e he)
  | carry carried => exact asks_of_carried carried

lemma asks_of_cutShort (hc : stage.CutShort h config.poll config.catalogSourceNamespace log) :
    ∀ e ∈ log, Part.manager.Asks config e.op := by
  cases hc with
  | apply =>
    intro e he
    rw [List.mem_singleton.mp he]
    exact .manifest
  | rollout failure => exact fun e he => .of_asks .deployment (failure.forall_asks e he)
  | unended unended => exact fun e he => .of_asks .deployment (unended.forall_asks e he)
  | unplaced | unknown | undeclared => simp
  | carry carried stopped => exact asks_of_carried carried

lemma asks_of_forall₂_calls {logs : List (List (Event Platform))}
    (hall : List.Forall₂ (Install.Stage.Calls h config.poll config.catalogSourceNamespace) stages
      logs) : ∀ e ∈ logs.flatten, Part.manager.Asks config e.op := by
  induction hall with
  | nil => simp
  | cons first rest ih =>
    intro e he
    rcases List.mem_append.mp he with he | he
    · exact asks_of_calls first e he
    · exact ih e he

lemma asks_of_inStages {result : Option (Except Error Unit)}
    (hi : Install.InStages h config.poll config.catalogSourceNamespace stages log result) :
    ∀ e ∈ log, Part.manager.Asks config e.op := by
  by_cases hresult : result = some (.ok ())
  · obtain ⟨logs, hall, rfl⟩ := hi.all hresult
    exact asks_of_forall₂_calls hall
  · obtain ⟨done, stage, later, logs, last, rfl, hdone, hcut, rfl⟩ := hi.first hresult
    intro e he
    rcases List.mem_append.mp he with he | he
    · exact asks_of_forall₂_calls hdone e he
    · exact asks_of_cutShort hcut e he

lemma asks_of_manager
    (hr : Runs h (Install.installOlm config.poll source config.catalogSourceNamespace) now x log
      o) : ∀ e ∈ log, Part.manager.Asks config e.op := by
  intro e he
  have hcalls := Install.managerCalls_of_runs hr
  generalize o.result = result at hcalls
  cases hcalls with
  | present | refused | unread =>
    rw [List.mem_singleton.mp he]
    exact .deployment
  | staged definitions components catalog calls =>
    rcases List.mem_cons.mp he with rfl | he
    · exact .deployment
    · exact asks_of_inStages calls e he

/-- Two resources are applied, and then manifests. -/
lemma asksOnly_provision (settings : Monitoring.Settings) (source : Source) (suffix : UInt64)
    (login password address : String) :
    (Monitoring.provision settings source suffix login password address).AsksOnly
      (Part.Asks config .monitoring) := by
  have happly : ∀ (f : Error → Error) resource,
      ((Call.applyResource resource).perform.mapError f).AsksOnly (Part.Asks config .monitoring) :=
    fun f resource => (asksOnly_perform .resource).mapError
  have hfiles : ∀ paths, (Monitoring.applyFiles settings.retry source paths).AsksOnly
      (Part.Asks config .monitoring) := by
    intro paths
    refine (Monitoring.asksOnly_applyFiles settings.retry source paths).mono ?_
    rintro op ⟨manifest, rfl⟩
    exact .stack
  rw [Monitoring.provision_eq]
  refine (happly _ _).bind fun _ => (happly _ _).bind fun _ => ?_
  exact (hfiles _).bind fun _ => .done _

lemma asksOnly_createKey (server : Monitoring.Server) (name : String) (key : Option String) :
    (Monitoring.createKey server name key).AsksOnly (Part.Asks config .monitoring) := by
  unfold Monitoring.createKey
  dsimp only
  split
  · exact .ask .key fun reply => asksOnly_ofExcept _
  · exact .fail _

lemma asksOnly_monitoring (config : Config) (source : Source) (numbers : Numbers) :
    (monitoring config source numbers).AsksOnly (Part.Asks config .monitoring) := by
  unfold monitoring
  dsimp only
  split
  · exact .fail _
  · exact (asksOnly_createKey _ _ _).bind fun key => asksOnly_provision _ _ _ _ _ _

/-- Each part asks only for what is listed for it. -/
theorem asks_of_part {part : Part} (hr : Runs h (part.work config source numbers) now x log o) :
    ∀ e ∈ log, part.Asks config e.op := by
  cases part with
  | manager => exact asks_of_manager hr
  | operator request =>
    intro e he
    obtain ⟨s, call, -, hcall, hasks⟩ := (Install.runs_carryOut hr).stepCall he
    exact .of_asks (.install hcall) hasks
  | monitoring =>
    have honly : (Part.monitoring.work config source numbers).AsksOnly
        (Part.Asks config .monitoring) :=
      (asksOnly_monitoring config source numbers).bind fun _ => .done ()
    exact honly.forall_events hr

end Provision

end Provisioner
