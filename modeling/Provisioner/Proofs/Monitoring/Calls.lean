import Provisioner.Proofs.Monitoring.Key
import Provisioner.Proofs.Monitoring.Objects
import Provisioner.Proofs.Cluster.Watch
import Provisioner.Proofs.Program.Asks
import Provisioner.Provision
/-!
# The calls of putting monitoring in place

Nothing on the cluster is touched before the monitoring server has given out a key.  Then the secret
with that key is applied, the agent that refers to the secret, and the manifests.  `KeyUse` says what
that means for the calls, one constructor for each way it goes.
-/

namespace Provisioner

open Program
open Manifest (Source)
open Resource (textAt?)

variable {σ : Type} {h : Handler Platform σ} {now : Duration} {s : σ} {log : List (Event Platform)}

namespace Monitoring

variable {settings : Settings} {source : Source} {suffix : UInt64}
  {login password address : String}

/-! ## After the key -/

/-- The failure to apply the secret. -/
def secretError (secret : String) (e : Error) : Error :=
  .monitoring ("cannot create secret " ++ secret ++ ": " ++ e.message)

/-- The failure to apply the agent. -/
def agentError (e : Error) : Error := .monitoring ("cannot apply vm agent spec: " ++ e.message)

/-- What is done after the secret is applied: it does not depend on what the secret holds. -/
def afterSecret (settings : Settings) (source : Source) (suffix : UInt64) (address : String) :
    Work String :=
  ((Call.applyResource (agentResource (secretName suffix) settings.ns address)).perform.mapError
    agentError).bind fun _ =>
      (applyFiles settings.retry source Manifest.monitoring).bind fun _ => .done (secretName suffix)

/-- The secret is applied first. -/
lemma provision_eq :
    provision settings source suffix login password address =
      ((Call.applyResource (loginSecret (secretName suffix) settings.ns login
        password)).perform.mapError (secretError (secretName suffix))).bind fun _ =>
          afterSecret settings source suffix address := by
  unfold provision afterSecret
  dsimp only
  rw [secretResource_credentials, agent_eq]
  rfl

/-- The operation applies a manifest. -/
def AppliesManifest (op : PlatformOp) : Prop := ∃ manifest, op = .cluster (.applyManifest manifest)

/-- The calls once there is a secret with a login and a password: it is applied once, then an agent
that writes with it, and then manifests; nothing follows a failure of the first two. -/
inductive StackCalls (secret : Resource) (login password : String) :
    List (Event Platform) → Option (Except Error String) → Prop
  | secretRefused {e : Error} {start : Duration} {message : String} :
      StackCalls secret login password [.ofCall (.applyResource secret) (.error e) start]
        (some (.error (.monitoring message)))
  | agentRefused {agent : Resource} {e : Error} {start later : Duration} {message : String}
      (writes : WritesWith agent secret login password) :
      StackCalls secret login password
        [.ofCall (.applyResource secret) (.ok ()) start,
          .ofCall (.applyResource agent) (.error e) later]
        (some (.error (.monitoring message)))
  | applied {agent : Resource} {start later : Duration} {rest : List (Event Platform)}
      {result : Option (Except Error String)} (writes : WritesWith agent secret login password)
      (manifests : ∀ e ∈ rest, AppliesManifest e.op)
      (returned : ∀ name, result = some (.ok name) → name = secret.name) :
      StackCalls secret login password
        (.ofCall (.applyResource secret) (.ok ()) start ::
          .ofCall (.applyResource agent) (.ok ()) later :: rest) result

lemma asksOnly_applyFiles (retry : Retry) (source : Source) (paths : List String) :
    (applyFiles retry source paths).AsksOnly AppliesManifest := by
  induction paths with
  | nil => exact .done ()
  | cons path rest ih =>
    have hfile : (applyFile retry source path).AsksOnly AppliesManifest := by
      refine (asksOnly_ofExcept _).bind fun manifest => AsksOnly.mapError (AsksOnly.retry ?_ retry)
      exact asksOnly_perform ⟨manifest, rfl⟩
    exact hfile.bind fun _ => ih

/-- After both resources are applied, only manifests are. -/
lemma applied_of_runs {retry : Retry} {source : Source} {paths : List String} {name : String}
    {o : Outcome σ Error String}
    (hr : Runs h ((applyFiles retry source paths).bind fun _ => .done name) now s log o) :
    (∀ e ∈ log, AppliesManifest e.op) ∧ ∀ value, o.result = some (.ok value) → value = name := by
  constructor
  · have honly := (asksOnly_applyFiles retry source paths).bind fun _ => AsksOnly.done name
    exact honly.forall_events hr
  · rintro value hvalue
    obtain ⟨o', -, rfl⟩ := runs_bind_done (g := fun _ => name) hr
    obtain ⟨result, finish, t⟩ := o'
    rcases result with _ | e | value'
    · cases hvalue
    · cases hvalue
    · cases hvalue
      rfl

lemma stackCalls_of_runs {o : Outcome σ Error String}
    (hr : Runs h (provision settings source suffix login password address) now s log o) :
    StackCalls (loginSecret (secretName suffix) settings.ns login password) login password log
      o.result := by
  rw [provision_eq] at hr
  have hwrites := writesWith_agentResource (secretName suffix) settings.ns address login password
  rcases runs_perform_mapError_bind hr with ⟨e, rfl, ho⟩ | ⟨⟨⟩, mid, t, rest, rfl, hrest⟩
  · rw [ho]
    exact .secretRefused
  · rcases runs_perform_mapError_bind hrest with ⟨e, rfl, ho⟩ | ⟨⟨⟩, mid', t', rest, rfl, hfiles⟩
    · rw [ho]
      exact .agentRefused hwrites
    · obtain ⟨hmanifests, hreturned⟩ := applied_of_runs hfiles
      exact .applied hwrites hmanifests hreturned

end Monitoring

/-! ## With the key -/

namespace Provision

open Monitoring

variable {config : Config} {source : Source} {numbers : Numbers}

/-- The request asks a server for a key for an account. -/
structure AsksKey (server : Server) (account : String) (request : Http.Request) : Prop where
  method : request.method = .post
  target : request.target = server.keysAddress
  account : request.body.bind (textAt? ["name"]) = some account

/-- What putting monitoring in place calls, and how it ends. -/
inductive KeyUse (config : Config) : List (Event Platform) → Option (Except Error String) → Prop
  /-- There is no server. -/
  | unconfigured (missing : config.monitoring.server.endpoint = "") {message : String} :
      KeyUse config [] (some (.error (.config message)))
  /-- No request can be sent to the server. -/
  | unsent (given : config.monitoring.server.endpoint ≠ "")
      (unusable : Http.Address.isUsable config.monitoring.server.keysAddress = false)
      {message : String} : KeyUse config [] (some (.error (.http message)))
  /-- The server does not give out a key. -/
  | withoutKey (given : config.monitoring.server.endpoint ≠ "") {account : String}
      {request : Http.Request} {reply : Except Http.Unreachable Http.Response} {start : Duration}
      {message : String} (asks : AsksKey config.monitoring.server account request)
      (keyless : ∀ key, ¬ HoldsKey key reply) :
      KeyUse config [⟨.monitoring request, reply, start⟩] (some (.error (.http message)))
  /-- The server gives out a key, which goes into the secret. -/
  | withKey (given : config.monitoring.server.endpoint ≠ "") {account key : String}
      {request : Http.Request} {reply : Except Http.Unreachable Http.Response} {start : Duration}
      {secret : Resource} {calls : List (Event Platform)} {result : Option (Except Error String)}
      (asks : AsksKey config.monitoring.server account request) (holds : HoldsKey key reply)
      (login : HoldsLogin secret config.ns account key)
      (stack : StackCalls secret account key calls result) :
      KeyUse config (⟨.monitoring request, reply, start⟩ :: calls) result

lemma asksKey_keyRequest (server : Server) (account : String) :
    AsksKey server account (server.keyRequest account none) := by
  refine ⟨rfl, rfl, ?_⟩
  simp [Server.keyRequest, textAt?]

/-- What is done with the answer to the request for a key. -/
def afterAnswer (config : Config) (source : Source) (numbers : Numbers)
    (reply : Except Http.Unreachable Http.Response) : Work String :=
  (ofExcept (keyOf config.monitoring.server.keysAddress reply)).bind fun key =>
    provision config.monitoringSettings source numbers.secret (accountName numbers.account) key
      config.monitoring.server.endpoint

/-- Where there is a server that can be asked, it is asked first. -/
lemma monitoring_of_usable (given : config.monitoring.server.endpoint ≠ "")
    (usable : Http.Address.isUsable config.monitoring.server.keysAddress = true) :
    monitoring config source numbers =
      .ask (I := Platform) (.monitoring
        (config.monitoring.server.keyRequest (accountName numbers.account) none))
        (afterAnswer config source numbers) := by
  unfold monitoring createKey
  dsimp only
  rw [if_neg given, isSendable_keyRequest, if_pos usable]
  rfl

/-- Where there is one that cannot be asked, that is the end. -/
lemma monitoring_of_unusable (given : config.monitoring.server.endpoint ≠ "")
    (unusable : Http.Address.isUsable config.monitoring.server.keysAddress = false) :
    monitoring config source numbers =
      .fail (.http ("POST " ++ config.monitoring.server.keysAddress ++ ": builder error")) := by
  unfold monitoring createKey
  dsimp only
  rw [if_neg given, isSendable_keyRequest, unusable]
  rfl

/-- Where there is none, that is the end as well. -/
lemma monitoring_of_missing (missing : config.monitoring.server.endpoint = "") :
    monitoring config source numbers =
      .fail (.config "monitoring.pmm.endpoint is required") := if_pos missing

lemma keyUse_of_runs {o : Outcome σ Error String}
    (hr : Runs h (monitoring config source numbers) now s log o) : KeyUse config log o.result := by
  by_cases given : config.monitoring.server.endpoint = ""
  · rw [monitoring_of_missing given] at hr
    obtain ⟨rfl, rfl⟩ := runs_fail_iff.mp hr
    exact .unconfigured given
  cases usable : Http.Address.isUsable config.monitoring.server.keysAddress with
  | false =>
    rw [monitoring_of_unusable given usable] at hr
    obtain ⟨rfl, rfl⟩ := runs_fail_iff.mp hr
    exact .unsent given usable
  | true =>
    rw [monitoring_of_usable given usable] at hr
    obtain ⟨rest, rfl, hrest⟩ := runs_ask_iff.mp hr
    have hasks := asksKey_keyRequest config.monitoring.server (accountName numbers.account)
    rw [afterAnswer] at hrest
    cases hkey : keyOf config.monitoring.server.keysAddress (h (.monitoring
      (config.monitoring.server.keyRequest (accountName numbers.account) none)) now s).reply with
    | error e =>
      rw [hkey] at hrest
      obtain ⟨rfl, rfl⟩ := runs_fail_iff.mp hrest
      obtain ⟨message, rfl⟩ := keyOf_eq_error hkey
      refine .withoutKey given hasks fun key hholds => ?_
      rw [keyOf_eq_ok_iff.mpr hholds] at hkey
      cases hkey
    | ok key =>
      rw [hkey, Program.ofExcept, done_bind] at hrest
      have hlogin := holdsLogin_loginSecret (secretName numbers.secret) config.ns
        (accountName numbers.account) key
      exact .withKey given hasks (keyOf_eq_ok_iff.mp hkey) hlogin (stackCalls_of_runs hrest)

/-- **The calls of putting monitoring in place.**  Whatever is configured and whatever the cluster
and the monitoring server answer, the cluster is touched only after a key was given out.  The first
call applies the secret that holds the account of the request and that key, and the next one, made
only if that succeeds, an agent that writes with this secret. -/
theorem monitoring_calls (h : Handler Platform σ) (config : Config) (source : Source)
    (numbers : Numbers) (now : Duration) (s : σ) :
    KeyUse config (trace h (monitoring config source numbers) now s)
      (Program.run h (monitoring config source numbers) now s).result :=
  keyUse_of_runs (runs_self h (monitoring config source numbers) now s)

end Provision

end Provisioner
