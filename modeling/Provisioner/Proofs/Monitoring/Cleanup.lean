import Provisioner.Proofs.ApiServer.Calls
import Provisioner.Proofs.ApiServer.Resources
import Provisioner.Proofs.Monitoring.Calls
/-!
# Removing what was put in place

Putting monitoring in place and removing it read the same files, in orders of their own.  Over a
network both come to the resources of those files, one after the other: what is applied in one place
is deleted there.  Deleting what is gone already goes as the deletion did.
-/

namespace Provisioner.Monitoring

open Program
open ApiServer
open Manifest (Source)
open Http (Request Response Unreachable)

variable {σ : Type} {h : Handler Network σ} {now finish : Duration} {s t : σ}
  {log : List (Event Network)} {kinds : Request → Except Unreachable Response}

/-! ## Files over a network -/

/-- The resources of a file. -/
def resourcesIn (source : Source) (path : String) : List Resource :=
  match source path with
  | .error _ => []
  | .ok manifest =>
    match Manifest.decode manifest with
    | .error _ => []
    | .ok resources => resources

/-- The file is there, and a manifest. -/
def IsManifest (source : Source) (path : String) : Prop :=
  ∃ manifest, source path = .ok manifest ∧
    Manifest.decode manifest = .ok (resourcesIn source path)

/-- Do something for each resource of a file. -/
def onFile (action : Resource → Program Network Error Unit) (error : String → Error → Error)
    (source : Source) (path : String) : Program Network Error Unit :=
  (ofExcept (source path)).bind fun manifest =>
    (forManifest action manifest).mapError (error path)

variable {action : Resource → Program Network Error Unit} {error : String → Error → Error}
  {source : Source} {path : String} {paths : List String}

lemma resourcesIn_eq {manifest : Text.Utf8.Bytes} {resources : List Resource}
    (hsource : source path = .ok manifest) (hdecode : Manifest.decode manifest = .ok resources) :
    resourcesIn source path = resources := by
  unfold resourcesIn
  rw [hsource]
  dsimp only
  rw [hdecode]

/-- A file is dealt with exactly when it is a manifest and all of its resources are dealt with. -/
lemma runs_onFile_ok_iff :
    Runs h (onFile action error source path) now s log ⟨some (.ok ()), finish, t⟩ ↔
      IsManifest source path ∧
        Runs h (inTurn ((resourcesIn source path).map action)) now s log
          ⟨some (.ok ()), finish, t⟩ := by
  unfold onFile IsManifest
  constructor
  · intro hr
    obtain ⟨manifest, mid, u, l₁, l₂, hread, hdone, rfl⟩ := runs_bind_ok_iff.mp hr
    obtain ⟨rfl, ho⟩ := runs_ofExcept_iff.mp hread
    obtain ⟨hsource, rfl, rfl⟩ := Outcome.mk.inj ho
    have hdone := runs_mapError_ok_iff.mp hdone
    unfold forManifest at hdone
    cases hdecode : Manifest.decode manifest with
    | error e =>
      rw [hdecode] at hdone
      obtain ⟨-, ho⟩ := runs_fail_iff.mp hdone
      cases ho
    | ok resources =>
      rw [hdecode] at hdone
      have hresources := resourcesIn_eq (Option.some.inj hsource).symm hdecode
      rw [hresources, ← forResources_eq_inTurn]
      exact ⟨⟨manifest, (Option.some.inj hsource).symm, hdecode⟩, hdone⟩
  · rintro ⟨⟨manifest, hsource, hdecode⟩, hr⟩
    rw [hsource, Program.ofExcept, done_bind, runs_mapError_ok_iff]
    rw [← forResources_eq_inTurn] at hr
    unfold forManifest
    rw [hdecode]
    exact hr

/-- What each resource yields in its operations, files yield in turn. -/
lemma filterMap_onFiles {γ : Type} {f : Event Network → Option γ} {yield : Resource → List γ}
    (hyield : ∀ r now s log mid t, Runs h (action r) now s log ⟨some (.ok ()), mid, t⟩ →
      log.filterMap f = yield r)
    (hr : Runs h (inTurn (paths.map (onFile action error source))) now s log
      ⟨some (.ok ()), finish, t⟩) :
    log.filterMap f = (paths.flatMap (resourcesIn source)).flatMap yield := by
  obtain ⟨logs, hall, rfl⟩ := runs_inTurn_ok_iff.mp hr
  rw [List.flatMap_assoc]
  refine hall.filterMap fun path _ now s log mid t hfile => ?_
  obtain ⟨-, hresources⟩ := runs_onFile_ok_iff.mp hfile
  obtain ⟨logs, hall, rfl⟩ := runs_inTurn_ok_iff.mp hresources
  exact hall.filterMap fun r _ => hyield r

/-! ## The work of monitoring over a network -/

/-- The failure to apply a file. -/
def applyError (path : String) (e : Error) : Error :=
  .monitoring ("cannot apply file " ++ path ++ ": " ++ e.message)

/-- The failure to delete a file. -/
def deleteError (path : String) (e : Error) : Error :=
  .monitoring ("cannot delete file " ++ path ++ ": " ++ e.message)

lemma onNetwork_applyFile (retry : Retry) (source : Source) (path : String) :
    onNetwork (applyFile retry source path) =
      (ofExcept (source path)).bind fun manifest =>
        (retry.run (forManifest applyResource manifest)).mapError (applyError path) := by
  have hmanifest : ∀ manifest,
      onNetwork ((Cluster.applyManifestWithRetry retry manifest).mapError (applyError path)) =
        (retry.run (forManifest applyResource manifest)).mapError (applyError path) := by
    intro manifest
    rw [onNetwork_mapError, onNetwork_applyManifestWithRetry]
    rfl
  have hfile := onNetwork_bind (Program.ofExcept (source path)) fun manifest =>
    (Cluster.applyManifestWithRetry retry manifest).mapError (applyError path)
  rw [onNetwork_ofExcept, funext hmanifest] at hfile
  exact hfile

lemma onNetwork_deleteFile (source : Source) (path : String) :
    onNetwork (deleteFile source path) = onFile deleteResource deleteError source path := by
  have hmanifest : ∀ manifest,
      onNetwork ((Call.deleteManifest manifest).perform.mapError (deleteError path)) =
        (forManifest deleteResource manifest).mapError (deleteError path) := by
    intro manifest
    rw [onNetwork_mapError, onNetwork_perform]
    rfl
  have hfile := onNetwork_bind (Program.ofExcept (source path)) fun manifest =>
    (Call.deleteManifest manifest).perform.mapError (deleteError path)
  rw [onNetwork_ofExcept, funext hmanifest] at hfile
  exact hfile

lemma onNetwork_applyFiles (retry : Retry) (source : Source) (paths : List String) :
    onNetwork (applyFiles retry source paths) =
      inTurn (paths.map fun path => onNetwork (applyFile retry source path)) := by
  induction paths with
  | nil => rfl
  | cons path rest ih =>
    rw [List.map_cons, inTurn_cons, ← ih]
    exact onNetwork_bind _ _

/-- Removing the stack deals with its files in turn. -/
lemma onNetwork_cleanup (source : Source) :
    onNetwork (cleanup source) =
      inTurn (Manifest.monitoringCleanup.map (onFile deleteResource deleteError source)) := by
  unfold cleanup
  induction Manifest.monitoringCleanup with
  | nil => rfl
  | cons path rest ih =>
    rw [List.map_cons, inTurn_cons, ← ih, ← onNetwork_deleteFile]
    exact onNetwork_bind _ _

lemma onNetwork_applyResource (r : Resource) (f : Error → Error) :
    onNetwork ((Call.applyResource r).perform.mapError f) = (applyResource r).mapError f := by
  rw [onNetwork_mapError, onNetwork_perform]
  rfl

/-- Putting the stack in place applies two resources and then its files in turn. -/
lemma onNetwork_provision (settings : Settings) (source : Source) (suffix : UInt64)
    (login password address : String) :
    onNetwork (provision settings source suffix login password address) =
      ((applyResource (loginSecret (secretName suffix) settings.ns login password)).mapError
        (secretError (secretName suffix))).bind fun _ =>
      ((applyResource (agentResource (secretName suffix) settings.ns address)).mapError
        agentError).bind fun _ =>
      (inTurn (Manifest.monitoring.map fun path =>
        onNetwork (applyFile settings.retry source path))).bind fun _ =>
      .done (secretName suffix) := by
  have hfiles : onNetwork ((applyFiles settings.retry source Manifest.monitoring).bind fun _ =>
      .done (secretName suffix)) =
      (inTurn (Manifest.monitoring.map fun path =>
        onNetwork (applyFile settings.retry source path))).bind fun _ =>
        .done (secretName suffix) := by
    rw [onNetwork_bind, onNetwork_applyFiles]
    rfl
  rw [provision_eq, onNetwork_bind, onNetwork_applyResource]
  refine congrArg _ (funext fun _ => ?_)
  rw [afterSecret, onNetwork_bind, onNetwork_applyResource, hfiles]

/-! ## Applied at the first attempt -/

/-- The settings with a single attempt for each file. -/
def Settings.once (settings : Settings) : Settings :=
  { settings with retry := { settings.retry with maxAttempts := 1 } }

/-- A file that is attempted once is a file dealt with. -/
lemma onNetwork_applyFile_once (settings : Settings) (source : Source) (path : String) :
    onNetwork (applyFile settings.once.retry source path) =
      onFile applyResource applyError source path :=
  onNetwork_applyFile settings.once.retry source path

/-- A file that is dealt with at the first attempt is not attempted again. -/
lemma runs_applyFile_of_once {settings : Settings}
    (hr : Runs h (onNetwork (applyFile settings.once.retry source path)) now s log
      ⟨some (.ok ()), finish, t⟩) :
    Runs h (onNetwork (applyFile settings.retry source path)) now s log
      ⟨some (.ok ()), finish, t⟩ := by
  rw [onNetwork_applyFile] at hr ⊢
  obtain ⟨manifest, mid, u, l₁, l₂, hread, hdone, rfl⟩ := runs_bind_ok_iff.mp hr
  have hattempt : Runs h (forManifest applyResource manifest) mid u l₂ ⟨some (.ok ()), finish, t⟩ :=
    runs_mapError_ok_iff.mp hdone
  exact hread.bind_ok (runs_mapError_ok_iff.mpr (hattempt.retry_ok settings.retry))

/-! ## What is applied is deleted -/

lemma perm_monitoringCleanup : Manifest.monitoringCleanup.Perm Manifest.monitoring := by
  decide

/-- Where each resource of the files is applied. -/
lemma targets_of_applied (fixed : FixedKinds kinds h)
    (hr : Runs h (inTurn (paths.map (onFile applyResource error source))) now s log
      ⟨some (.ok ()), finish, t⟩) :
    (sent .patch log).map (·.target) = (paths.flatMap (resourcesIn source)).map (url kinds) := by
  rw [sent, List.map_filterMap, List.map_eq_flatMap]
  refine filterMap_onFiles (fun r now s log mid t hresource => ?_) hr
  obtain ⟨formed, hsent, htarget, -⟩ := runs_applyResource_ok fixed hresource
  rw [← List.map_filterMap, ← sent, hsent, ← htarget]
  rfl

/-- Where each resource of the files is deleted. -/
lemma targets_of_deleted (fixed : FixedKinds kinds h)
    (hr : Runs h (inTurn (paths.map (onFile deleteResource error source))) now s log
      ⟨some (.ok ()), finish, t⟩) :
    (sent .delete log).map (·.target) = (paths.flatMap (resourcesIn source)).map (url kinds) := by
  rw [sent, List.map_filterMap, List.map_eq_flatMap]
  refine filterMap_onFiles (fun r now s log mid t hresource => ?_) hr
  obtain ⟨-, -, formed, hsent, htarget⟩ := runs_deleteResource_ok fixed hresource
  rw [← List.map_filterMap, ← sent, hsent, ← htarget]
  rfl

/-- All that is sent to delete the resources of the files. -/
lemma ops_of_deleted (fixed : FixedKinds kinds h)
    (hr : Runs h (inTurn (paths.map (onFile deleteResource error source))) now s log
      ⟨some (.ok ()), finish, t⟩) :
    log.map (·.op) = (paths.flatMap (resourcesIn source)).flatMap (removal kinds) := by
  rw [← List.filterMap_eq_map]
  refine filterMap_onFiles (fun r now s log mid t hresource => ?_) hr
  obtain ⟨-, hops, -⟩ := runs_deleteResource_ok fixed hresource
  rw [← hops, ← List.filterMap_eq_map]

/-- Files whose resources were deleted can be dealt with so by any server that answers
deletions. -/
lemma alwaysEnds_of_deleted {τ : Type} {again : Handler Network τ} (fixed : FixedKinds kinds h)
    (hr : Runs h (inTurn (paths.map (onFile deleteResource error source))) now s log
      ⟨some (.ok ()), finish, t⟩)
    (fixed' : FixedKinds kinds again) (answers : AnswersDeletions again) :
    AlwaysEnds again (inTurn (paths.map (onFile deleteResource error source))) := by
  -- Each file, and each resource in it, has been dealt with once; that it can be deleted does not
  -- depend on the state in which it was.
  obtain ⟨logs, hall, -⟩ := runs_inTurn_ok_iff.mp hr
  refine alwaysEnds_inTurn fun path hpath => ?_
  obtain ⟨start, u, l, mid, v, hfile⟩ := hall.exists_runs path hpath
  obtain ⟨hmanifest, hresources⟩ := runs_onFile_ok_iff.mp hfile
  obtain ⟨logs', hall', -⟩ := runs_inTurn_ok_iff.mp hresources
  have hends : AlwaysEnds again (inTurn ((resourcesIn source path).map deleteResource)) := by
    refine alwaysEnds_inTurn fun r hr => ?_
    obtain ⟨_, _, _, _, _, hresource⟩ := hall'.exists_runs r hr
    exact alwaysEnds_deleteResource fixed' answers (runs_deleteResource_ok fixed hresource).1
  intro start u
  obtain ⟨l, mid, v, hrun⟩ := hends start u
  exact ⟨l, mid, v, runs_onFile_ok_iff.mpr ⟨hmanifest, hrun⟩⟩

/-- Putting the stack in place at the first attempt applies the secret, the agent, and then every
resource of the files. -/
lemma runs_provision_once {settings : Settings} {suffix : UInt64}
    {login password address name : String} (fixed : FixedKinds kinds h)
    (hr : Runs h (onNetwork (provision settings.once source suffix login password address)) now s
      log ⟨some (.ok name), finish, t⟩) :
    Runs h (onNetwork (provision settings source suffix login password address)) now s log
        ⟨some (.ok name), finish, t⟩ ∧
      ∃ secret agent files, sent .patch log = secret :: agent :: files ∧
        secret.body = some (loginSecret (secretName suffix) settings.ns login password).body ∧
        agent.body = some (agentResource (secretName suffix) settings.ns address).body ∧
        files.map (·.target) =
          (Manifest.monitoring.flatMap (resourcesIn source)).map (url kinds) := by
  rw [onNetwork_provision] at hr
  obtain ⟨⟨⟩, _, _, l₁, _, hsecret, hrest, rfl⟩ := runs_bind_ok_iff.mp hr
  obtain ⟨⟨⟩, _, _, l₂, _, hagent, hrest', rfl⟩ := runs_bind_ok_iff.mp hrest
  obtain ⟨⟨⟩, _, _, l₃, _, hfiles, hend, rfl⟩ := runs_bind_ok_iff.mp hrest'
  obtain ⟨rfl, ho⟩ := runs_done_iff.mp hend
  cases ho
  constructor
  -- The events of a single attempt are also those of any number of attempts.
  · obtain ⟨logs, hall, rfl⟩ := runs_inTurn_ok_iff.mp hfiles
    have hretried := runs_inTurn_ok_iff.mpr
      ⟨logs, hall.mono fun path _ now s log mid t => runs_applyFile_of_once, rfl⟩
    rw [onNetwork_provision]
    exact hsecret.bind_ok (hagent.bind_ok (hretried.bind_ok (runs_done_iff.mpr ⟨rfl, rfl⟩)))
  · obtain ⟨secret, hsent, -, hbody⟩ := runs_applyResource_ok fixed
      (runs_mapError_ok_iff.mp hsecret)
    obtain ⟨agent, hsent', -, hbody'⟩ := runs_applyResource_ok fixed
      (runs_mapError_ok_iff.mp hagent)
    rw [funext (onNetwork_applyFile_once settings source)] at hfiles
    refine ⟨secret, agent, sent .patch l₃, ?_, hbody, hbody', targets_of_applied fixed hfiles⟩
    rw [List.append_nil, sent_append, sent_append, hsent, hsent']
    rfl

/-- **What is put in place is removed.**  Where monitoring is put in place at the first attempt, a
successful removal deletes in exactly the places in which the resources of the nine files were
applied, whatever these hold.  Removing it again succeeds wherever objects that are gone are answered
as such, and sends the same requests. -/
theorem cleanup_undoes_provision {settings : Settings} {suffix : UInt64}
    {login password address name : String} {later : Duration} (fixed : FixedKinds kinds h)
    (provisioned : (Program.run h (onNetwork (provision settings.once source suffix login password
      address)) now s).result = some (.ok name))
    (cleaned : (Program.run h (onNetwork (cleanup source)) later t).result = some (.ok ())) :
    (Program.run h (onNetwork (provision settings source suffix login password address)) now
        s).result = some (.ok name) ∧
      (∃ secret agent files,
        sent .patch (trace h (onNetwork (provision settings source suffix login password address))
          now s) = secret :: agent :: files ∧
        secret.body = some (loginSecret (secretName suffix) settings.ns login password).body ∧
        agent.body = some (agentResource (secretName suffix) settings.ns address).body ∧
        ((sent .delete (trace h (onNetwork (cleanup source)) later t)).map (·.target)).Perm
          (files.map (·.target))) ∧
      ∀ {τ : Type} (again : Handler Network τ), FixedKinds kinds again → AnswersDeletions again →
        ∀ start u, (Program.run again (onNetwork (cleanup source)) start u).result =
            some (.ok ()) ∧
          (trace again (onNetwork (cleanup source)) start u).map (·.op) =
            (trace h (onNetwork (cleanup source)) later t).map (·.op) := by
  obtain ⟨hprovision, secret, agent, files, hsent, hsecret, hagent, htargets⟩ :=
    runs_provision_once fixed (runs_of_result provisioned)
  have hcleanup := runs_of_result cleaned
  rw [onNetwork_cleanup] at hcleanup ⊢
  refine ⟨by rw [hprovision.run_eq], ⟨secret, agent, files, ?_, hsecret, hagent, ?_⟩, ?_⟩
  · rw [hprovision.trace_eq, hsent]
  · rw [targets_of_deleted fixed hcleanup, htargets]
    -- The orders of the files differ, and with them those of the resources.
    exact (perm_monitoringCleanup.flatMap_right _).map _
  · intro τ again fixed' answers start u
    obtain ⟨log, finish, v, hagain⟩ := alwaysEnds_of_deleted fixed hcleanup fixed' answers start u
    rw [ops_of_deleted fixed hcleanup, hagain.trace_eq, ops_of_deleted fixed' hagain]
    exact ⟨by rw [hagain.run_eq], rfl⟩

/-! ### A server with a service -/

/-- What a server says of its kinds. -/
def knownKinds : String :=
  "\x7b\"groupVersion\":\"v1\",\"resources\":[" ++
    "\x7b\"name\":\"secrets\",\"kind\":\"Secret\"\x7d," ++
    "\x7b\"name\":\"vmagents\",\"kind\":\"VMAgent\"\x7d," ++
    "\x7b\"name\":\"services\",\"kind\":\"Service\"\x7d]\x7d"

/-- A server that accepts what is applied, and has one answer to deletions. -/
def serving (deletion : Response) : Handler Network Unit
  | .apiServer asked, _, _ =>
    let response := match asked.method with
      | .get | .post => ⟨200, knownKinds⟩
      | .patch => ⟨200, "\x7b\x7d"⟩
      | .delete => deletion
    ⟨.ok response, 0, ()⟩
  | .other _, _, _ => ⟨.error ⟨"refused"⟩, 0, ()⟩

/-- Files of which one holds a service. -/
def oneService : Source := fun path =>
  .ok (if path = "crds/victoriametrics/kube-state-metrics/service.yaml" then
    Text.Utf8.bytes ("\x7b\"apiVersion\":\"v1\",\"kind\":\"Service\"," ++
      "\"metadata\":\x7b\"name\":\"metrics\"\x7d\x7d")
  else [])

/-- The answer of a server to the deletion of what it accepted. -/
def deleted : Response := ⟨200, "\x7b\x7d"⟩

/-- The answer of a server to the deletion of what is gone. -/
def gone : Response := ⟨404, "\x7b\"status\":\"Failure\",\"code\":404\x7d"⟩

lemma fixedKinds_serving (deletion : Response) :
    FixedKinds (fun _ => .ok ⟨200, knownKinds⟩) (serving deletion) := by
  intro group version question hasks now s
  have hget := listKinds_eq_ok hasks
  simp [serving, hget]

lemma answersDeletions_serving : AnswersDeletions (serving gone) := by
  intro request now s hdelete
  refine ⟨gone, ?_, .absent (by decide) (by decide +kernel)⟩
  simp [serving, hdelete]

lemma run_provision_serving :
    (Program.run (serving deleted) (onNetwork (provision (Settings.once ⟨"default", .standard⟩)
      oneService 7 "login" "key" "https://pmm")) 0 ()).result = some (.ok "vm-operator-7") := by
  rw [onNetwork_provision]
  decide +kernel

lemma run_cleanup_serving :
    (Program.run (serving deleted) (onNetwork (cleanup oneService)) 0 ()).result =
      some (.ok ()) := by
  rw [onNetwork_cleanup]
  decide +kernel

/-- The service is deleted where it was applied, and again once it is gone. -/
theorem cleanup_undoes_provision_service :
    (∃ secret agent files,
      sent .patch (trace (serving deleted) (onNetwork (provision ⟨"default", .standard⟩ oneService 7
        "login" "key" "https://pmm")) 0 ()) = secret :: agent :: files ∧
      ((sent .delete (trace (serving deleted) (onNetwork (cleanup oneService)) 0 ())).map
        (·.target)).Perm (files.map (·.target))) ∧
    (Program.run (serving gone) (onNetwork (cleanup oneService)) 0 ()).result = some (.ok ()) := by
  obtain ⟨-, ⟨secret, agent, files, hsent, -, -, hperm⟩, hagain⟩ :=
    cleanup_undoes_provision (fixedKinds_serving deleted) run_provision_serving run_cleanup_serving
  exact ⟨⟨secret, agent, files, hsent, hperm⟩,
    (hagain (serving gone) (fixedKinds_serving gone) answersDeletions_serving 0 ()).1⟩

end Provisioner.Monitoring
