import Provisioner.Proofs.Json.Replace
import Provisioner.Proofs.Monitoring.Confidential
/-!
# Slashes at the end of an address

The address of the monitoring server goes into two others: the one where a key is made, for which
slashes that end it are taken off, and the one that the agent writes to, for which they are not.  Two
addresses that differ in such slashes are one server to whoever asks for the key, so the two runs go
on alike until the agent is applied, and then write to different places.
-/

namespace Provisioner

open Program
open Manifest (Source)
open Resource (textAt?)

variable {σ : Type} {h : Handler Platform σ} {now : Duration} {s : σ} {log log' : List (Event Platform)}

/-! ## Addresses -/

/-- The address does not end with a slash. -/
def EndsPlain (address : String) : Prop := address.toList.getLast? ≠ some '/'

instance (address : String) : Decidable (EndsPlain address) :=
  inferInstanceAs (Decidable (_ ≠ _))

/-- The address followed by slashes. -/
def slashed (address : String) (k : Nat) : String :=
  address ++ String.ofList (List.replicate k '/')

lemma slashed_zero (address : String) : slashed address 0 = address := by
  simp [slashed]

lemma slashed_eq_empty_iff {address : String} {k : Nat} :
    slashed address k = "" ↔ address = "" ∧ k = 0 := by
  rw [← String.toList_inj, ← String.toList_inj]
  simp [slashed]

lemma slashed_append_inj {address path : String} {k : Nat}
    (heq : slashed address k ++ path = address ++ path) : k = 0 := by
  have hlength := congrArg (fun text : String => text.toList.length) heq
  simp [slashed] at hlength
  omega

/-- The server, with slashes at the end of its address. -/
def Monitoring.Server.withSlashes (server : Monitoring.Server) (k : Nat) : Monitoring.Server :=
  { server with endpoint := slashed server.endpoint k }

lemma Monitoring.Server.withSlashes_zero (server : Monitoring.Server) :
    server.withSlashes 0 = server := by
  unfold withSlashes
  rw [slashed_zero]

/-- The configuration with slashes at the end of the address of the monitoring server. -/
def Config.withSlashes (config : Config) (k : Nat) : Config :=
  { config with monitoring :=
      { config.monitoring with server := config.monitoring.server.withSlashes k } }

lemma Config.withSlashes_zero (config : Config) : config.withSlashes 0 = config := by
  unfold withSlashes
  rw [Monitoring.Server.withSlashes_zero]

/-! ## Where an agent writes to -/

namespace Resource

/-- The resource is an agent. -/
def isAgent (r : Resource) : Bool := r.isKind "operator.victoriametrics.com" "v1beta1" "VMAgent"

/-- The address that an agent writes to. -/
def writesTo? (r : Resource) : Option String :=
  match r.body.at? ["spec", "remoteWrite"] with
  | some (.array [target]) => textAt? ["url"] target
  | _ => none

/-- The agent that writes to another address. -/
def writingTo (url : String) (r : Resource) : Resource :=
  match r.body.at? ["spec", "remoteWrite"] with
  | some (.array [target]) =>
    let changed := Json.replaceAt ["url"] (.string url) target
    { r with body := Json.replaceAt ["spec", "remoteWrite"] (.array [changed]) r.body }
  | _ => r

end Resource

/-- The operation applies an agent. -/
def AppliesAgent (op : PlatformOp) : Prop :=
  ∃ r : Resource, op = .cluster (.applyResource r) ∧ r.isAgent = true

/-- The agent that an event applies, if it applies one. -/
def appliedAgent? (e : Event Platform) : Option Resource :=
  match e.op with
  | .cluster (.applyResource r) => if r.isAgent then some r else none
  | _ => none

/-- The agents that are applied, in order. -/
def appliedAgents (log : List (Event Platform)) : List Resource := log.filterMap appliedAgent?

/-- The request of an event to the monitoring server, if it is one. -/
def monitoringRequest? (e : Event Platform) : Option Http.Request :=
  match e.op with
  | .monitoring request => some request
  | .cluster _ => none

lemma monitoringRequest?_eq_some_iff {e : Event Platform} {request : Http.Request} :
    monitoringRequest? e = some request ↔ e.op = .monitoring request := by
  unfold monitoringRequest?
  split
  · rename_i asked hop
    rw [hop, Option.some_inj, PlatformOp.monitoring.injEq]
  · rename_i call hop
    rw [hop]
    exact ⟨nofun, nofun⟩

/-- The requests to the monitoring server, in order. -/
def monitoringRequests (log : List (Event Platform)) : List Http.Request :=
  log.filterMap monitoringRequest?

/-- The runs are the same until an agent is applied; the two agents differ only in the address that
they write to, and nothing but manifests is applied after them. -/
inductive SameButTarget (url url' : String) : List (Event Platform) → List (Event Platform) → Prop
  /-- No agent is applied. -/
  | unmonitored {log : List (Event Platform)} (quiet : ∀ e ∈ log, ¬ AppliesAgent e.op) :
      SameButTarget url url' log log
  | monitored {before rest rest' : List (Event Platform)} {r r' : Resource}
      {reply reply' : Except Error Unit} {start : Duration}
      (quiet : ∀ e ∈ before, ¬ AppliesAgent e.op) (agent : r.isAgent = true)
      (agent' : r'.isAgent = true) (changed : r' = r.writingTo url')
      (writes : r.writesTo? = some url) (writes' : r'.writesTo? = some url')
      (manifests : ∀ e ∈ rest ++ rest', Monitoring.AppliesManifest e.op) :
      SameButTarget url url' (before ++ .ofCall (.applyResource r) reply start :: rest)
        (before ++ .ofCall (.applyResource r') reply' start :: rest')

/-! ## Runs that differ in the agent -/

lemma appliedAgent?_eq_none {e : Event Platform} (quiet : ¬ AppliesAgent e.op) :
    appliedAgent? e = none := by
  unfold appliedAgent?
  split
  · rename_i r hop
    exact if_neg fun hagent => quiet ⟨r, hop, hagent⟩
  · rfl

lemma appliedAgents_of_quiet (quiet : ∀ e ∈ log, ¬ AppliesAgent e.op) : appliedAgents log = [] :=
  List.filterMap_eq_nil_iff.mpr fun e he => appliedAgent?_eq_none (quiet e he)

lemma not_appliesAgent_of_appliesManifest {op : PlatformOp} (hop : Monitoring.AppliesManifest op) :
    ¬ AppliesAgent op := by
  obtain ⟨manifest, rfl⟩ := hop
  rintro ⟨r, hr, -⟩
  cases hr

/-- Where one agent is applied, it is the one. -/
lemma appliedAgents_eq_singleton {before rest : List (Event Platform)} {r : Resource}
    {reply : Except Error Unit} {start : Duration} (quiet : ∀ e ∈ before, ¬ AppliesAgent e.op)
    (agent : r.isAgent = true) (manifests : ∀ e ∈ rest, Monitoring.AppliesManifest e.op) :
    appliedAgents (before ++ .ofCall (.applyResource r) reply start :: rest) = [r] := by
  have hrest := appliedAgents_of_quiet fun e he =>
    not_appliesAgent_of_appliesManifest (manifests e he)
  have hevent : appliedAgent? (.ofCall (.applyResource r) reply start) = some r := if_pos agent
  unfold appliedAgents at hrest ⊢
  rw [List.filterMap_append, List.filterMap_cons, hevent, hrest]
  exact congrArg (· ++ [r]) (appliedAgents_of_quiet quiet)

/-- After the agent nothing is asked of the monitoring server. -/
lemma monitoringRequests_before {before rest : List (Event Platform)} {r : Resource}
    {reply : Except Error Unit} {start : Duration}
    (manifests : ∀ e ∈ rest, Monitoring.AppliesManifest e.op) :
    monitoringRequests (before ++ .ofCall (.applyResource r) reply start :: rest) =
      monitoringRequests before := by
  have hrest : monitoringRequests rest = [] := by
    refine List.filterMap_eq_nil_iff.mpr fun e he => ?_
    obtain ⟨manifest, hop⟩ := manifests e he
    rw [monitoringRequest?, hop]
  unfold monitoringRequests at hrest ⊢
  rw [List.filterMap_append, List.filterMap_cons, hrest]
  exact List.append_nil _

namespace SameButTarget

variable {url url' : String} (same : SameButTarget url url' log log')

include same

/-- Both runs ask the monitoring server the same. -/
lemma monitoringRequests_eq : monitoringRequests log' = monitoringRequests log := by
  cases same with
  | unmonitored quiet => rfl
  | monitored quiet agent agent' changed writes writes' manifests =>
    rw [monitoringRequests_before fun e he => manifests e (List.mem_append_left _ he),
      monitoringRequests_before fun e he => manifests e (List.mem_append_right _ he)]

/-- Both runs apply an agent, or neither does. -/
lemma appliedAgents_map :
    (appliedAgents log = [] ∧ appliedAgents log' = []) ∨
      ∃ r : Resource, appliedAgents log = [r] ∧ appliedAgents log' = [r.writingTo url'] ∧
        r.writesTo? = some url ∧ (r.writingTo url').writesTo? = some url' := by
  cases same with
  | unmonitored quiet => exact .inl ⟨appliedAgents_of_quiet quiet, appliedAgents_of_quiet quiet⟩
  | monitored quiet agent agent' changed writes writes' manifests =>
    subst changed
    exact .inr ⟨_, appliedAgents_eq_singleton quiet agent fun e he =>
        manifests e (List.mem_append_left _ he),
      appliedAgents_eq_singleton quiet agent' fun e he => manifests e (List.mem_append_right _ he),
      writes, writes'⟩

end SameButTarget

namespace Monitoring

/-- The path under which the server takes what an agent writes. -/
def writePath : String := "/victoriametrics/api/v1/write"

/-! ## The agent of an address -/

section Agent

variable (secret ns address : String)

lemma writesTo?_agentResource :
    (agentResource secret ns address).writesTo? = some (address ++ writePath) := by
  have htarget : (agentResource secret ns address).body.at? ["spec", "remoteWrite"] =
      some (.array [remoteWrite secret address]) := at?_remoteWrite secret ns address
  rw [Resource.writesTo?, htarget]
  simp [remoteWrite, textAt?, writePath]

/-- Another address is another agent in one place only. -/
lemma agentResource_writingTo (other : String) :
    agentResource secret ns other =
      (agentResource secret ns address).writingTo (other ++ writePath) := by
  have htarget : (agentResource secret ns address).body.at? ["spec", "remoteWrite"] =
      some (.array [remoteWrite secret address]) := at?_remoteWrite secret ns address
  have hurl : Json.replaceAt ["url"] (.string (other ++ writePath)) (remoteWrite secret address) =
      remoteWrite secret other := by
    simp [remoteWrite, writePath]
  rw [Resource.writingTo, htarget]
  dsimp only
  rw [hurl]
  simp [agentResource, agentDocument, agentSpec]

end Agent

/-! ## What is done before and after -/

variable {config : Config} {source : Source} {numbers : Provision.Numbers}

/-- The address where a key is made does not depend on slashes that end that of the server. -/
lemma keysAddress_withSlashes {server : Server} (plain : EndsPlain server.endpoint) (k : Nat) :
    (server.withSlashes k).keysAddress = server.endpoint ++ "/graph/api/auth/keys" := by
  rw [Server.keysAddress, Server.withSlashes, slashed, Text.trimRight_append_replicate plain]

lemma keyRequest_withSlashes {server : Server} (plain : EndsPlain server.endpoint) (k : Nat)
    (name : String) (key : Option String) :
    (server.withSlashes k).keyRequest name key = server.keyRequest name key := by
  have haddress : (server.withSlashes k).keysAddress = server.keysAddress := by
    rw [keysAddress_withSlashes plain, ← keysAddress_withSlashes plain 0, Server.withSlashes_zero]
  unfold Server.keyRequest
  rw [haddress]
  rfl

/-- After the secret, the agent is applied, and then manifests are. -/
lemma trace_afterSecret (h : Handler Platform σ) (settings : Settings) (source : Source)
    (suffix : UInt64) (address : String) (now : Duration) (s : σ) :
    ∃ reply rest, trace h (afterSecret settings source suffix address) now s =
        .ofCall (.applyResource (agentResource (secretName suffix) settings.ns address)) reply
          now :: rest ∧
      ∀ e ∈ rest, AppliesManifest e.op := by
  rcases runs_perform_mapError_bind
      (runs_self h (afterSecret settings source suffix address) now s) with
    ⟨e, htrace, -⟩ | ⟨⟨⟩, mid, t, rest, htrace, hfiles⟩
  · exact ⟨.error e, [], htrace, by simp⟩
  · exact ⟨.ok (), rest, htrace, (applied_of_runs hfiles).1⟩

end Monitoring

namespace Provision

open Monitoring

variable {config : Config} {source : Source} {numbers : Numbers}

/-- What is done before the agent is applied: a key is made, and the secret with it is applied. -/
def beforeAgent (config : Config) (numbers : Numbers) : Work Unit :=
  let account := accountName numbers.account
  let secret := secretName numbers.secret
  (createKey config.monitoring.server account none).bind fun key =>
    (Call.applyResource (loginSecret secret config.ns account key)).perform.mapError
      (secretError secret)

lemma monitoring_eq (given : config.monitoring.server.endpoint ≠ "") :
    monitoring config source numbers = (beforeAgent config numbers).bind fun _ =>
      afterSecret config.monitoringSettings source numbers.secret
        config.monitoring.server.endpoint := by
  unfold monitoring beforeAgent
  dsimp only
  rw [if_neg given, bind_assoc]
  exact congrArg _ (funext fun key => provision_eq)

lemma beforeAgent_withSlashes (plain : EndsPlain config.monitoring.server.endpoint) (k : Nat)
    (numbers : Numbers) :
    beforeAgent (config.withSlashes k) numbers = beforeAgent config numbers := by
  have hrequest := keyRequest_withSlashes plain k (accountName numbers.account) none
  unfold beforeAgent createKey Config.withSlashes
  dsimp only
  rw [hrequest]

/-- No agent is among it. -/
lemma asksOnly_beforeAgent (config : Config) (numbers : Numbers) :
    (beforeAgent config numbers).AsksOnly fun op => ¬ AppliesAgent op := by
  have hsecret : ∀ (name ns login password : String), ¬ AppliesAgent
      (.cluster (.applyResource (loginSecret name ns login password))) := by
    rintro name ns login password ⟨r, hr, hagent⟩
    cases hr
    cases hagent
  have hkey : ∀ request, ¬ AppliesAgent (.monitoring request) := by
    rintro request ⟨r, hr, -⟩
    cases hr
  unfold beforeAgent createKey
  dsimp only
  refine AsksOnly.bind ?_ fun key => (asksOnly_perform (hsecret _ _ _ _)).mapError
  split
  · exact .ask (hkey _) fun reply => asksOnly_ofExcept _
  · exact .fail _

/-- Without a server nothing is called, slashes or not: they are no address. -/
lemma trace_monitoring_of_missing (missing : config.monitoring.server.endpoint = "") (k : Nat)
    (source : Source) (numbers : Numbers) (h : Handler Platform σ) (now : Duration) (s : σ) :
    trace h (monitoring (config.withSlashes k) source numbers) now s = [] := by
  have plain : EndsPlain config.monitoring.server.endpoint := by
    rw [missing]
    decide
  have haddress : (config.withSlashes k).monitoring.server.keysAddress = "/graph/api/auth/keys" := by
    rw [Config.withSlashes, keysAddress_withSlashes plain, missing]
    rfl
  have unusable : Http.Address.isUsable "/graph/api/auth/keys" = false := by decide +kernel
  by_cases given : (config.withSlashes k).monitoring.server.endpoint = ""
  · rw [monitoring_of_missing given]
    rfl
  · rw [monitoring_of_unusable given (haddress ▸ unusable)]
    rfl

/-- The two runs go on alike until the agent is applied. -/
lemma sameButTarget_monitoring (plain : EndsPlain config.monitoring.server.endpoint) (k : Nat)
    (source : Source) (numbers : Numbers) (h : Handler Platform σ) (now : Duration) (s : σ) :
    SameButTarget (config.monitoring.server.endpoint ++ writePath)
      (slashed config.monitoring.server.endpoint k ++ writePath)
      (trace h (monitoring config source numbers) now s)
      (trace h (monitoring (config.withSlashes k) source numbers) now s) := by
  by_cases given : config.monitoring.server.endpoint = ""
  · have hnone := trace_monitoring_of_missing given 0 source numbers h now s
    rw [Config.withSlashes_zero] at hnone
    rw [hnone, trace_monitoring_of_missing given]
    exact .unmonitored (by simp)
  have given' : (config.withSlashes k).monitoring.server.endpoint ≠ "" :=
    fun hempty => given (slashed_eq_empty_iff.mp hempty).1
  have hquiet := (asksOnly_beforeAgent config numbers).forall_events
    (runs_self h (beforeAgent config numbers) now s)
  -- Slashes or not, it is one program up to the agent, and so one run of it.
  rw [monitoring_eq given, monitoring_eq given', beforeAgent_withSlashes plain, trace_bind,
    trace_bind]
  rcases run h (beforeAgent config numbers) now s with ⟨_ | error | ⟨⟩, mid, t⟩
  · exact List.append_nil _ ▸ .unmonitored hquiet
  · exact List.append_nil _ ▸ .unmonitored hquiet
  · dsimp only
    obtain ⟨reply, rest, htrace, hrest⟩ := trace_afterSecret h config.monitoringSettings source
      numbers.secret config.monitoring.server.endpoint mid t
    obtain ⟨reply', rest', htrace', hrest'⟩ := trace_afterSecret h
      (config.withSlashes k).monitoringSettings source numbers.secret
      (config.withSlashes k).monitoring.server.endpoint mid t
    rw [htrace, htrace']
    refine .monitored hquiet rfl rfl (agentResource_writingTo _ _ _ _) (writesTo?_agentResource _ _ _)
      (writesTo?_agentResource _ _ _) fun e he => ?_
    rcases List.mem_append.mp he with he | he
    · exact hrest e he
    · exact hrest' e he

/-- The monitoring server is asked at one address only. -/
lemma asksOnly_keysAddress (config : Config) (source : Source) (numbers : Numbers) :
    (monitoring config source numbers).AsksOnly fun op : PlatformOp =>
      ∀ request, op = .monitoring request →
        request.target = config.monitoring.server.keysAddress := by
  by_cases given : config.monitoring.server.endpoint = ""
  · rw [monitoring_of_missing given]
    exact .fail _
  cases usable : Http.Address.isUsable config.monitoring.server.keysAddress with
  | false =>
    rw [monitoring_of_unusable given usable]
    exact .fail _
  | true =>
    rw [monitoring_of_usable given usable]
    refine .ask ?_ fun reply => (asksOnly_afterAnswer config source numbers reply).mono ?_
    · rintro request ⟨⟩
      rfl
    · rintro op ⟨call, rfl⟩ request hop
      cases hop

/-- All that is asked of the monitoring server is a key. -/
lemma target_of_monitoringRequests (plain : EndsPlain config.monitoring.server.endpoint)
    (h : Handler Platform σ) (now : Duration) (s : σ) :
    ∀ request ∈ monitoringRequests (trace h (monitoring config source numbers) now s),
      request.target = config.monitoring.server.endpoint ++ "/graph/api/auth/keys" := by
  have haddress := keysAddress_withSlashes plain 0
  rw [Server.withSlashes_zero] at haddress
  have honly := asksOnly_keysAddress config source numbers
  intro request hrequest
  obtain ⟨e, he, hop⟩ := List.mem_filterMap.mp hrequest
  have hop : e.op = .monitoring request := monitoringRequest?_eq_some_iff.mp hop
  exact (honly.forall_events (runs_self h _ now s) e he request hop).trans haddress

/-- **Slashes that end the address of the server.**  Let the address not end with a slash, and let
another configuration have slashes after it.  The same is asked of the server in both runs, at the
address where keys are made, and the same calls are made until an agent is applied.  The agents are
the same but for the address that they write to, which has the slashes that are configured in it: so
if an agent is applied at all, it is the same one only where there are none. -/
theorem slashes_of_endpoint (plain : EndsPlain config.monitoring.server.endpoint) (k : Nat)
    (source : Source) (numbers : Numbers) (h : Handler Platform σ) (now : Duration) (s : σ) :
    let endpoint := config.monitoring.server.endpoint
    let log := trace h (monitoring config source numbers) now s
    let log' := trace h (monitoring (config.withSlashes k) source numbers) now s
    monitoringRequests log' = monitoringRequests log ∧
      (∀ request ∈ monitoringRequests log, request.target = endpoint ++ "/graph/api/auth/keys") ∧
      SameButTarget (endpoint ++ "/victoriametrics/api/v1/write")
        (slashed endpoint k ++ "/victoriametrics/api/v1/write") log log' ∧
      (appliedAgents log' = appliedAgents log ↔ k = 0 ∨ appliedAgents log = []) := by
  have same := sameButTarget_monitoring plain k source numbers h now s
  refine ⟨same.monitoringRequests_eq, target_of_monitoringRequests plain h now s, same, ?_, ?_⟩
  · intro heq
    rcases same.appliedAgents_map with ⟨hnone, -⟩ | ⟨r, hr, hr', hwrites, hwrites'⟩
    · exact .inr hnone
    · rw [hr, hr', List.cons.injEq] at heq
      rw [heq.1, hwrites] at hwrites'
      exact .inl (slashed_append_inj (Option.some.inj hwrites').symm)
  · rintro (rfl | hnone)
    · rw [Config.withSlashes_zero]
    · rcases same.appliedAgents_map with ⟨-, hnone'⟩ | ⟨r, hr, -⟩
      · rw [hnone, hnone']
      · rw [hnone] at hr
        cases hr

/-- The calls where everything that is applied is kept. -/
def keptCalls (config : Config) : List (Event Platform) :=
  trace (keeping "first") (monitoring config (fun _ => .ok []) ⟨7, 7⟩) 0 []

/-- With a slash at the end of its address the server is asked the same, and the agent is another
one. -/
theorem slashes_of_endpoint_one :
    EndsPlain keepingConfig.monitoring.server.endpoint ∧
      (monitoringRequests (keptCalls (keepingConfig.withSlashes 1))).map (·.target) =
        ["https://pmm/graph/api/auth/keys"] ∧
      appliedAgents (keptCalls (keepingConfig.withSlashes 1)) ≠
        appliedAgents (keptCalls keepingConfig) := by
  have plain : EndsPlain keepingConfig.monitoring.server.endpoint := by decide
  have hasked : (monitoringRequests (keptCalls keepingConfig)).map (·.target) =
      ["https://pmm/graph/api/auth/keys"] := by
    decide +kernel
  have happlied : (appliedAgents (keptCalls keepingConfig)).length = 1 := by decide +kernel
  obtain ⟨hsame, -, -, hiff⟩ := slashes_of_endpoint plain 1 (fun _ => .ok []) ⟨7, 7⟩
    (keeping "first") 0 []
  refine ⟨plain, ?_, fun heq => ?_⟩
  · rw [← hasked]
    exact congrArg (List.map (·.target)) hsame
  · rcases hiff.mp heq with hzero | hnone
    · cases hzero
    · rw [keptCalls, hnone] at happlied
      cases happlied

/-- One slash at the end of the address is one more in the address that the agent writes to. -/
theorem agent_differs_by_slash :
    EndsPlain keepingConfig.monitoring.server.endpoint ∧
      (appliedAgents (keptCalls keepingConfig)).map (·.writesTo?) =
        [some "https://pmm/victoriametrics/api/v1/write"] ∧
      (appliedAgents (keptCalls (keepingConfig.withSlashes 1))).map (·.writesTo?) =
        [some "https://pmm//victoriametrics/api/v1/write"] := by
  decide +kernel

end Provision

end Provisioner
