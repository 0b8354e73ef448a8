import Provisioner.Proofs.Json.Replace
import Provisioner.Proofs.Monitoring.Calls
/-!
# Credentials stay where they belong

Two runs of putting monitoring in place that differ in the login on the monitoring server make the
same calls and end the same.  Two runs that differ in the key that the server gives out differ in
one place: the password in the one secret.  Both hold wherever the answers do not depend on what is
in a secret.  The clusters of the two runs are related as two machines in a bisimulation are: they
may keep different secrets in their states, but no answer tells the states apart.
-/

namespace Provisioner

open Manifest (Source)

variable {σ τ : Type} {alike : σ → τ → Prop}

/-! ## Runs that cannot be told apart -/

/-- Two turns come to the same: the answers are related, take as long, and leave states that are
alike. -/
structure Turn.Agrees {I : Interface} {op op' : I.Op} (a : Turn I σ op) (b : Turn I τ op')
    (same : I.Reply op → I.Reply op' → Prop) (alike : σ → τ → Prop) : Prop where
  reply : same a.reply b.reply
  took : a.took = b.took
  state : alike a.state b.state

namespace Program

variable {I : Interface} {ε α : Type} {good : I.Op → Prop} {p : Program I ε α}
  {h₁ : Handler I σ} {h₂ : Handler I τ} {now : Duration} {s : σ} {t : τ}

/-- The two runs ask for the same, get the same answers, and end the same. -/
structure SameRun (h₁ : Handler I σ) (h₂ : Handler I τ) (p : Program I ε α) (now : Duration) (s : σ)
    (t : τ) : Prop where
  trace : trace h₁ p now s = trace h₂ p now t
  result : (run h₁ p now s).result = (run h₂ p now t).result

/-- Handlers that agree on the operations of a program run it alike. -/
lemma AsksOnly.sameRun (hp : p.AsksOnly good)
    (agree : ∀ op now s t, good op → alike s t →
      (h₁ op now s).Agrees (h₂ op now t) (fun x y => x = y) alike)
    (now : Duration) (start : alike s t) : SameRun h₁ h₂ p now s t := by
  -- Before each operation the states are alike, so both runs get one answer and go on alike.
  induction hp generalizing now s t with
  | done | fail | stall => exact ⟨rfl, rfl⟩
  | ask asked rest ih =>
    obtain ⟨hreply, htook, hstate⟩ := agree _ now s t asked start
    obtain ⟨htrace, hresult⟩ := ih _ (now + _) hstate
    constructor
    · rw [Program.trace, Program.trace, ← hreply, ← htook, htrace]
    · rw [run, run, ← hreply, ← htook, hresult]
  | clock rest ih =>
    obtain ⟨htrace, hresult⟩ := ih now now start
    exact ⟨htrace, hresult⟩
  | sleep rest ih =>
    obtain ⟨htrace, hresult⟩ := ih (now + _) start
    exact ⟨htrace, hresult⟩

end Program

open Program

/-! ## What a cluster can tell apart -/

/-- The resource with something else in its data. -/
def Resource.withData (r : Resource) (data : Json) : Resource :=
  { r with body := Json.replaceAt ["data"] data r.body }

/-- The resource with another password in its data. -/
def Resource.withPassword (r : Resource) (password : Json) : Resource :=
  { r with body := Json.replaceAt ["data", "password"] password r.body }

/-- The answers of the clusters do not depend on the data of the secrets that are applied: from
states that are alike they answer the same calls alike, and secrets with different data too. -/
structure IgnoreData (alike : σ → τ → Prop) (h₁ : Handler Platform σ) (h₂ : Handler Platform τ) :
    Prop where
  call : ∀ call now s t, alike s t →
    (h₁ (.cluster call) now s).Agrees (h₂ (.cluster call) now t) (fun x y => x = y) alike
  secret : ∀ (r : Resource) data now s t, r.isKind "" "v1" "Secret" = true → alike s t →
    (h₁ (.cluster (.applyResource r)) now s).Agrees
      (h₂ (.cluster (.applyResource (r.withData data))) now t) (fun x y => x = y) alike

/-- The operation is a call to the cluster. -/
def PlatformOp.IsCall (op : PlatformOp) : Prop := ∃ call, op = .cluster call

/-- A program that only makes calls to the clusters runs alike. -/
lemma IgnoreData.sameRun {h₁ : Handler Platform σ} {h₂ : Handler Platform τ} {s : σ} {t : τ}
    {α : Type} {p : Work α} (ignore : IgnoreData alike h₁ h₂) (hp : p.AsksOnly PlatformOp.IsCall)
    (now : Duration) (start : alike s t) : SameRun h₁ h₂ p now s t := by
  refine hp.sameRun ?_ now start
  rintro op now s t ⟨call, rfl⟩ halike
  exact ignore.call call now s t halike

/-- The calls to the cluster among some events. -/
def clusterCalls (log : List (Event Platform)) : List (Event Platform) :=
  log.filter fun e => match e.op with
    | .cluster _ => true
    | .monitoring _ => false

/-- The calls are the same, but for the password in the secret that the first one applies. -/
inductive DifferInPassword : List (Event Platform) → List (Event Platform) → Prop
  /-- Nothing is applied. -/
  | none : DifferInPassword [] []
  | secret {r r' : Resource} {password : Json} {reply : Except Error Unit} {start : Duration}
      {rest : List (Event Platform)} (isSecret : r.isKind "" "v1" "Secret" = true)
      (changed : r' = r.withPassword password) :
      DifferInPassword (.ofCall (.applyResource r) reply start :: rest)
        (.ofCall (.applyResource r') reply start :: rest)

/-! ## After the key -/

namespace Monitoring

variable {h₁ : Handler Platform σ} {h₂ : Handler Platform τ} {now : Duration} {s : σ} {t : τ}
  {settings : Settings} {source : Source} {suffix : UInt64}

section Secret

variable (name ns login password other : String)

/-- Another password is another secret in one place only. -/
lemma loginSecret_withPassword :
    loginSecret name ns login other = (loginSecret name ns login password).withPassword
      (Secret.encodeBytes (Text.Utf8.bytes other)) := by
  unfold Resource.withPassword loginSecret credentials Secret.encode
  simp [Json.member?, Json.ofMap, Secret.kind, ResourceKind.members, passwordKey, usernameKey,
    Json.Members.alter_cons]

/-- That place is in the data of the secret. -/
lemma loginSecret_withData :
    ∃ data, loginSecret name ns login other = (loginSecret name ns login password).withData data := by
  refine ⟨Json.ofMap Secret.encodeBytes
    [(passwordKey, Text.Utf8.bytes other), (usernameKey, Text.Utf8.bytes login)], ?_⟩
  unfold Resource.withData loginSecret credentials Secret.encode
  simp [Json.member?, Secret.kind, ResourceKind.members, Json.Members.alter_cons]

end Secret

lemma isCall_of_appliesManifest {op : PlatformOp} (hop : AppliesManifest op) : op.IsCall := by
  obtain ⟨manifest, rfl⟩ := hop
  exact ⟨_, rfl⟩

lemma asksOnly_afterSecret (settings : Settings) (source : Source) (suffix : UInt64)
    (address : String) :
    (afterSecret settings source suffix address).AsksOnly PlatformOp.IsCall := by
  have hfiles := (asksOnly_applyFiles settings.retry source Manifest.monitoring).mono
    fun op => isCall_of_appliesManifest
  exact (asksOnly_perform ⟨_, rfl⟩).mapError.bind fun _ => hfiles.bind fun _ => .done _

/-- What an answer to the first call leads to. -/
lemma provision_ask (settings : Settings) (source : Source) (suffix : UInt64)
    (login password address : String) :
    provision settings source suffix login password address =
      .ask (I := Platform)
        (.cluster (.applyResource (loginSecret (secretName suffix) settings.ns login password)))
        fun reply => ((Program.ofExcept reply).mapError (secretError (secretName suffix))).bind
          fun _ => afterSecret settings source suffix address :=
  provision_eq

/-- What an answer to the first call leads to asks the cluster only. -/
lemma asksOnly_afterReply (settings : Settings) (source : Source) (suffix : UInt64)
    (reply : Except Error Unit) (address : String) :
    (((Program.ofExcept reply).mapError (secretError (secretName suffix))).bind fun _ =>
      afterSecret settings source suffix address).AsksOnly PlatformOp.IsCall :=
  ((asksOnly_ofExcept reply).mapError).bind fun _ => asksOnly_afterSecret _ _ _ _

/-- Two keys make a difference in one place only. -/
lemma provision_differ (ignore : IgnoreData alike h₁ h₂) (start : alike s t)
    (login password other address : String) :
    DifferInPassword
        (clusterCalls (trace h₁ (provision settings source suffix login password address) now s))
        (clusterCalls (trace h₂ (provision settings source suffix login other address) now t)) ∧
      (run h₁ (provision settings source suffix login password address) now s).result =
        (run h₂ (provision settings source suffix login other address) now t).result := by
  obtain ⟨data, hdata⟩ := loginSecret_withData (secretName suffix) settings.ns login password other
  have hturn := ignore.secret _ data now s t
    (holdsLogin_loginSecret (secretName suffix) settings.ns login password).kind start
  rw [← hdata] at hturn
  obtain ⟨hreply, htook, hstate⟩ := hturn
  rw [provision_ask, provision_ask]
  obtain ⟨htrace, hresult⟩ := ignore.sameRun
    (asksOnly_afterReply settings source suffix _ address) (now + _) hstate
  constructor
  · rw [trace, trace, ← hreply, ← htook, ← htrace]
    exact .secret rfl (loginSecret_withPassword _ _ _ _ _)
  · rw [run, run, ← hreply, ← htook]
    exact hresult

end Monitoring

/-! ## With the key -/

namespace Provision

open Monitoring

variable {h₁ : Handler Platform σ} {h₂ : Handler Platform τ} {now : Duration} {s : σ} {t : τ}
  {config : Config} {source : Source} {numbers : Numbers}

/-- There is a monitoring server, and requests can be sent to it. -/
def HasServer (config : Config) : Prop :=
  config.monitoring.server.endpoint ≠ "" ∧
    Http.Address.isUsable config.monitoring.server.keysAddress = true

/-- The configuration with another login on the monitoring server. -/
def withLogin (config : Config) (username password : String) : Config :=
  { config with monitoring := { config.monitoring with
      server := { config.monitoring.server with username, password } } }

/-- Without a server there is an error, whatever the login on it. -/
lemma monitoring_of_not_hasServer (source : Source) (numbers : Numbers)
    (missing : ¬ HasServer config) (username password : String) :
    ∃ e, monitoring config source numbers = .fail e ∧
      monitoring (withLogin config username password) source numbers = .fail e := by
  by_cases given : config.monitoring.server.endpoint = ""
  · exact ⟨_, monitoring_of_missing given, monitoring_of_missing given⟩
  · have hunusable : Http.Address.isUsable config.monitoring.server.keysAddress = false :=
      Bool.eq_false_iff.mpr fun usable => missing ⟨given, usable⟩
    exact ⟨_, monitoring_of_unusable given hunusable, monitoring_of_unusable given hunusable⟩

lemma asksOnly_afterAnswer (config : Config) (source : Source) (numbers : Numbers)
    (reply : Except Http.Unreachable Http.Response) :
    (afterAnswer config source numbers reply).AsksOnly PlatformOp.IsCall := by
  refine (asksOnly_ofExcept _).bind fun key => ?_
  rw [provision_ask]
  exact .ask ⟨_, rfl⟩ fun reply => asksOnly_afterReply _ _ _ reply _

/-- With a key in the answer, it goes into the secret. -/
lemma afterAnswer_of_holdsKey {reply : Except Http.Unreachable Http.Response} {key : String}
    (hkey : HoldsKey key reply) :
    afterAnswer config source numbers reply =
      provision config.monitoringSettings source numbers.secret (accountName numbers.account) key
        config.monitoring.server.endpoint := by
  rw [afterAnswer, keyOf_eq_ok_iff.mpr hkey, Program.ofExcept, done_bind]

/-- The turn in which the server of a configuration is asked for a key. -/
def keyTurn {σ : Type} (h : Handler Platform σ) (config : Config) (numbers : Numbers)
    (now : Duration) (s : σ) :=
  h (.monitoring (config.monitoring.server.keyRequest (accountName numbers.account) none)) now s

/-- With a server, a run goes on from the turn in which that is asked for a key. -/
lemma monitoring_of_hasServer (source : Source) (numbers : Numbers) (hserver : HasServer config)
    (h : Handler Platform σ) (now : Duration) (s : σ) :
    clusterCalls (trace h (monitoring config source numbers) now s) =
        clusterCalls (trace h (afterAnswer config source numbers
          (keyTurn h config numbers now s).reply) (now + (keyTurn h config numbers now s).took)
          (keyTurn h config numbers now s).state) ∧
      Program.run h (monitoring config source numbers) now s =
        Program.run h (afterAnswer config source numbers
          (keyTurn h config numbers now s).reply) (now + (keyTurn h config numbers now s).took)
          (keyTurn h config numbers now s).state := by
  rw [monitoring_of_usable hserver.1 hserver.2]
  exact ⟨rfl, rfl⟩

/-- **Credentials stay where they belong.**  Two runs of putting monitoring in place that differ in
the login on the monitoring server make the same calls to the cluster and end the same, message
included, if the server gives both the same answer.  Two runs that differ in the key that the server
gives out end the same too, and their calls differ in the password of the one secret that is
applied. -/
theorem monitoring_confidential (ignore : IgnoreData alike h₁ h₂) (config : Config)
    (source : Source) (numbers : Numbers) (now : Duration) (s : σ) (t : τ) :
    (∀ username password,
      let other := withLogin config username password
      (HasServer config → (keyTurn h₁ config numbers now s).Agrees
        (keyTurn h₂ other numbers now t) (fun x y => x = y) alike) →
      clusterCalls (trace h₁ (monitoring config source numbers) now s) =
          clusterCalls (trace h₂ (monitoring other source numbers) now t) ∧
        (Program.run h₁ (monitoring config source numbers) now s).result =
          (Program.run h₂ (monitoring other source numbers) now t).result) ∧
    ((HasServer config → (keyTurn h₁ config numbers now s).Agrees
        (keyTurn h₂ config numbers now t)
        (fun x y => ∃ key other, HoldsKey key x ∧ HoldsKey other y) alike) →
      DifferInPassword (clusterCalls (trace h₁ (monitoring config source numbers) now s))
          (clusterCalls (trace h₂ (monitoring config source numbers) now t)) ∧
        (Program.run h₁ (monitoring config source numbers) now s).result =
          (Program.run h₂ (monitoring config source numbers) now t).result) := by
  constructor
  · intro username password other hanswers
    by_cases hserver : HasServer config
    · obtain ⟨hreply, htook, hstate⟩ := hanswers hserver
      obtain ⟨hcalls₁, hrun₁⟩ := monitoring_of_hasServer source numbers hserver h₁ now s
      -- The login is no part of what `HasServer` and all that follows the answer look at.
      have hother : HasServer other := hserver
      obtain ⟨hcalls₂, hrun₂⟩ := monitoring_of_hasServer source numbers hother h₂ now t
      obtain ⟨htrace, hresult⟩ := ignore.sameRun (asksOnly_afterAnswer config source numbers _)
        (now + _) hstate
      rw [hcalls₁, hcalls₂, hrun₁, hrun₂, ← hreply, ← htook]
      exact ⟨congrArg clusterCalls htrace, hresult⟩
    · obtain ⟨e, hfail, hfail'⟩ := monitoring_of_not_hasServer source numbers hserver username
        password
      rw [hfail, hfail']
      exact ⟨rfl, rfl⟩
  · intro hanswers
    by_cases hserver : HasServer config
    · obtain ⟨⟨key, other, hkey, hother⟩, htook, hstate⟩ := hanswers hserver
      obtain ⟨hcalls₁, hrun₁⟩ := monitoring_of_hasServer source numbers hserver h₁ now s
      obtain ⟨hcalls₂, hrun₂⟩ := monitoring_of_hasServer source numbers hserver h₂ now t
      -- With a key in each answer, all that is left to differ is what goes into the secret.
      rw [hcalls₁, hcalls₂, hrun₁, hrun₂, ← htook, afterAnswer_of_holdsKey hkey,
        afterAnswer_of_holdsKey hother]
      exact provision_differ ignore hstate _ _ _ _
    · obtain ⟨e, hfail, -⟩ := monitoring_of_not_hasServer source numbers hserver "" ""
      rw [hfail]
      exact ⟨.none, rfl⟩

/-- A cluster that keeps what is applied, and a server that gives out one key. -/
def keeping (key : String) : Handler Platform (List Resource)
  | .monitoring _, _, kept => ⟨.ok ⟨200, "[\"" ++ key ++ "\"]"⟩, 0, kept⟩
  | .cluster (.applyResource r), _, kept => ⟨.ok (), 0, r :: kept⟩
  | .cluster (.applyManifest _), _, kept => ⟨.ok (), 0, kept⟩
  | .cluster _, _, kept => ⟨.error (.monitoring "refused"), 0, kept⟩

/-- A configuration with a server. -/
def keepingConfig : Config := { monitoring := { server := { endpoint := "https://pmm" } } }

lemma holdsKey_keeping {key text : String}
    (hread : Json.read text.toList = .ok (.array [.string key])) : HoldsKey key (.ok ⟨200, text⟩) :=
  .intro ⟨(by decide : 200 ≤ 200), (by decide : 200 < 300)⟩ hread .array

/-- A secret that is kept makes no difference to the answers. -/
lemma ignoreData_keeping (key other : String) :
    IgnoreData (fun _ _ => True) (keeping key) (keeping other) where
  call call now s t _ := by
    cases call <;> exact ⟨rfl, rfl, trivial⟩
  secret r data now s t _ _ := ⟨rfl, rfl, trivial⟩

/-- Another login leaves the calls as they are, and another key does but for the one password. -/
theorem monitoring_confidential_keeping :
    HasServer keepingConfig ∧
      clusterCalls (trace (keeping "first")
          (monitoring keepingConfig (fun _ => .ok []) ⟨7, 7⟩) 0 []) =
        clusterCalls (trace (keeping "first")
          (monitoring (withLogin keepingConfig "admin" "admin") (fun _ => .ok []) ⟨7, 7⟩) 0 []) ∧
      DifferInPassword
        (clusterCalls (trace (keeping "first")
          (monitoring keepingConfig (fun _ => .ok []) ⟨7, 7⟩) 0 []))
        (clusterCalls (trace (keeping "second")
          (monitoring keepingConfig (fun _ => .ok []) ⟨7, 7⟩) 0 [])) := by
  have hfirst : HoldsKey "first" (.ok ⟨200, "[\"" ++ "first" ++ "\"]"⟩) := holdsKey_keeping rfl
  have hsecond : HoldsKey "second" (.ok ⟨200, "[\"" ++ "second" ++ "\"]"⟩) := holdsKey_keeping rfl
  have hlogin := (monitoring_confidential (ignoreData_keeping "first" "first") keepingConfig
    (fun _ => .ok []) ⟨7, 7⟩ 0 [] []).1 "admin" "admin" fun _ => ⟨rfl, rfl, trivial⟩
  have hkey := (monitoring_confidential (ignoreData_keeping "first" "second") keepingConfig
    (fun _ => .ok []) ⟨7, 7⟩ 0 [] []).2 fun _ => ⟨⟨_, _, hfirst, hsecond⟩, rfl, trivial⟩
  exact ⟨⟨by decide, by decide +kernel⟩, hlogin.1, hkey.1⟩

end Provision

end Provisioner
