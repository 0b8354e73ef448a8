import Provisioner.Proofs.Monitoring.Calls
import Provisioner.Proofs.Program.InTurn
/-!
# The manifests of the monitoring stack, as they are applied

The secret and the agent are applied once each.  The manifests follow in their order, each attempted
until it is applied or the attempts are used up; a file is read when its turn comes.  `StackWrites`
tells how such a run can go, and `provision_writes` that it goes in one of these ways and comes to
the name of the secret exactly when all the files were applied.
-/

namespace Provisioner.Monitoring

open Program
open Manifest (Source)
open Text.Utf8 (Bytes)

variable {σ : Type} {h : Handler Platform σ} {now finish : Duration} {s t : σ}
  {log : List (Event Platform)} {retry : Retry} {source : Source} {path : String}

/-! ## What is written -/

/-- One or more attempts to apply a manifest: all of them but the last are refused, and the last is
answered so. -/
inductive Attempts (manifest : Bytes) : List (Event Platform) → Except Error Unit → Prop
  | last (reply : Except Error Unit) (start : Duration) :
      Attempts manifest [.ofCall (.applyManifest manifest) reply start] reply
  | again {e : Error} {start : Duration} {log : List (Event Platform)} {reply : Except Error Unit}
      (rest : Attempts manifest log reply) :
      Attempts manifest (.ofCall (.applyManifest manifest) (.error e) start :: log) reply

/-- A file is applied: it can be read, and an attempt that the policy allows succeeds. -/
structure FileApplied (retry : Retry) (source : Source) (path : String)
    (log : List (Event Platform)) : Prop where
  made : ∃ manifest, source path = .ok manifest ∧ Attempts manifest log (.ok ())
  allowed : log.length ≤ retry.attempts

/-- The failure to apply a file by its last attempt. -/
def fileError (path : String) (e : Error) : Error :=
  .monitoring ("cannot apply file " ++ path ++ ": " ++ e.message)

/-- A file is not applied: it cannot be read, or all attempts at it are refused. -/
inductive FileFailed (retry : Retry) (source : Source) (path : String) :
    List (Event Platform) → Error → Prop
  | unreadable {e : Error} (unread : source path = .error e) : FileFailed retry source path [] e
  | exhausted {manifest : Bytes} {log : List (Event Platform)} {e : Error}
      (read : source path = .ok manifest) (attempts : Attempts manifest log (.error e))
      (all : log.length = retry.attempts) : FileFailed retry source path log (fileError path e)

/-- All files are applied, in their order. -/
def FilesApplied (retry : Retry) (source : Source) (paths : List String)
    (log : List (Event Platform)) : Prop :=
  ∃ logs, List.Forall₂ (FileApplied retry source) paths logs ∧ log = logs.flatten

/-- The first files are applied, in their order, and the next one is not; nothing follows it. -/
def FilesStopped (retry : Retry) (source : Source) (paths : List String)
    (log : List (Event Platform)) (e : Error) : Prop :=
  ∃ done path rest before last, paths = done ++ path :: rest ∧
    FilesApplied retry source done before ∧ FileFailed retry source path last e ∧
    log = before ++ last

/-- How the stack is written: the secret and the agent, each once, and then the files; nothing
follows what fails, and only the whole comes to the name of the secret. -/
inductive StackWrites (retry : Retry) (source : Source) (secret agent : Resource) :
    List (Event Platform) → Except Error String → Prop
  | secretRefused {e : Error} {start : Duration} :
      StackWrites retry source secret agent [.ofCall (.applyResource secret) (.error e) start]
        (.error (secretError secret.name e))
  | agentRefused {e : Error} {start later : Duration} :
      StackWrites retry source secret agent
        [.ofCall (.applyResource secret) (.ok ()) start,
          .ofCall (.applyResource agent) (.error e) later] (.error (agentError e))
  | stopped {start later : Duration} {log : List (Event Platform)} {e : Error}
      (files : FilesStopped retry source Manifest.monitoring log e) :
      StackWrites retry source secret agent
        (.ofCall (.applyResource secret) (.ok ()) start ::
          .ofCall (.applyResource agent) (.ok ()) later :: log) (.error e)
  | applied {start later : Duration} {log : List (Event Platform)}
      (files : FilesApplied retry source Manifest.monitoring log) :
      StackWrites retry source secret agent
        (.ofCall (.applyResource secret) (.ok ()) start ::
          .ofCall (.applyResource agent) (.ok ()) later :: log) (.ok secret.name)

/-! ## The attempts at a file -/

/-- A manifest is attempted until it is applied, and as often as is allowed when it is not. -/
lemma runs_retrying {manifest : Bytes} {n : Nat} {o : Outcome σ Error Unit}
    (hr : Runs h (retry.retrying (Call.applyManifest manifest).perform n) now s log o) :
    ∃ reply finish t, o = ⟨some reply, finish, t⟩ ∧ Attempts manifest log reply ∧
      log.length ≤ n + 1 ∧ ∀ e, reply = .error e → log.length = n + 1 := by
  induction n generalizing now s log with
  | zero =>
    obtain ⟨reply, finish, t, rfl, rfl⟩ := runs_perform hr
    exact ⟨reply, finish, t, rfl, .last reply now, Nat.le_refl _, fun _ _ => rfl⟩
  | succ n ih =>
    obtain ⟨rest, rfl, hrest⟩ := runs_ask_iff.mp hr
    rcases hreply : (h (.cluster (.applyManifest manifest)) now s).reply with e | ⟨⟩
    · -- a refusal is followed by a pause and the attempts that are left
      rw [hreply] at hrest
      obtain ⟨reply, finish, t, rfl, hattempts, hle, hall⟩ := ih (runs_sleep_iff.mp hrest)
      refine ⟨reply, finish, t, rfl, .again hattempts, ?_, fun e he => ?_⟩
      · simpa using hle
      · simpa using hall e he
    · rw [hreply] at hrest
      obtain ⟨rfl, rfl⟩ := runs_done_iff.mp hrest
      exact ⟨.ok (), _, _, rfl, .last (.ok ()) now, by simp, fun e he => by cases he⟩

lemma runs_applyFile {o : Outcome σ Error Unit}
    (hr : Runs h (applyFile retry source path) now s log o) :
    (o.result = some (.ok ()) ∧ FileApplied retry source path log) ∨
      ∃ e, o.result = some (.error e) ∧ FileFailed retry source path log e := by
  unfold applyFile at hr
  rw [bind_eq] at hr
  cases hread : source path with
  | error e =>
    rw [hread] at hr
    obtain ⟨rfl, rfl⟩ := runs_fail_iff.mp hr
    exact .inr ⟨e, rfl, .unreadable hread⟩
  | ok manifest =>
    rw [hread, Program.ofExcept, done_bind] at hr
    obtain ⟨o', hattempts, rfl⟩ := runs_mapError_iff.mp hr
    obtain ⟨reply, finish, t, rfl, hmade, hle, hall⟩ := runs_retrying hattempts
    have hattempts : retry.attempts - 1 + 1 = retry.attempts := by
      have hone : 1 ≤ retry.attempts := Nat.le_max_right _ _
      omega
    rw [hattempts] at hle hall
    rcases reply with e | ⟨⟩
    · exact .inr ⟨fileError path e, rfl, .exhausted hread hmade (hall e rfl)⟩
    · exact .inl ⟨rfl, ⟨manifest, hread, hmade⟩, hle⟩

/-! ## The files in turn -/

lemma applyFiles_eq_inTurn (retry : Retry) (source : Source) (paths : List String) :
    applyFiles retry source paths = inTurn (paths.map (applyFile retry source)) := by
  induction paths with
  | nil => rfl
  | cons path rest ih =>
    rw [List.map_cons, inTurn_cons, ← ih]
    rfl

lemma fileApplied_of_runs {mid : Duration}
    (hr : Runs h (applyFile retry source path) now s log ⟨some (.ok ()), mid, t⟩) :
    FileApplied retry source path log := by
  rcases runs_applyFile hr with ⟨-, happlied⟩ | ⟨e, ho, -⟩
  · exact happlied
  · cases ho

lemma filesApplied_of_allEnd {paths : List String} {logs : List (List (Event Platform))}
    (hall : AllEnd h (paths.map (applyFile retry source)) now s logs finish t) :
    FilesApplied retry source paths logs.flatten :=
  ⟨logs, hall.forall₂ fun _ _ _ _ _ _ _ hr => fileApplied_of_runs hr, rfl⟩

lemma runs_applyFiles {paths : List String} {o : Outcome σ Error Unit}
    (hr : Runs h (applyFiles retry source paths) now s log o) :
    (o.result = some (.ok ()) ∧ FilesApplied retry source paths log) ∨
      ∃ e, o.result = some (.error e) ∧ FilesStopped retry source paths log e := by
  rw [applyFiles_eq_inTurn] at hr
  obtain ⟨result, finish, t⟩ := o
  by_cases hends : result = some (.ok ())
  · subst hends
    obtain ⟨logs, hall, rfl⟩ := runs_inTurn_ok_iff.mp hr
    exact .inl ⟨rfl, filesApplied_of_allEnd hall⟩
  · obtain ⟨works, work, rest, logs, mid, u, last, hpaths, hall, hlast, rfl⟩ :=
      (runs_inTurn_stopped_iff hends).mp hr
    -- the programs that end well are those of the first paths, and the next one is that of a path
    obtain ⟨done, later, rfl, rfl, hlater⟩ := List.map_eq_append_iff.mp hpaths
    obtain ⟨path, others, rfl, rfl, rfl⟩ := List.map_eq_cons_iff.mp hlater
    rcases runs_applyFile hlast with ⟨hok, -⟩ | ⟨e, herror, hfailed⟩
    · exact absurd hok hends
    · exact .inr ⟨e, herror, done, path, others, _, last, rfl, filesApplied_of_allEnd hall,
        hfailed, rfl⟩

/-! ## How many files are applied -/

/-- The event applies a manifest, and succeeds. -/
def appliesFile : Event Platform → Bool
  | ⟨.cluster (.applyManifest _), .ok _, _⟩ => true
  | _ => false

lemma Attempts.countP_eq {manifest : Bytes} {reply : Except Error Unit}
    (ha : Attempts manifest log reply) :
    log.countP appliesFile = if reply = .ok () then 1 else 0 := by
  induction ha with
  | last reply start => rcases reply with e | ⟨⟩ <;> rfl
  | again rest ih =>
    rw [List.countP_cons_of_neg (by simp [appliesFile]), ih]

lemma FilesApplied.countP_eq {paths : List String}
    (hall : FilesApplied retry source paths log) : log.countP appliesFile = paths.length := by
  obtain ⟨logs, hall, rfl⟩ := hall
  induction hall with
  | nil => rfl
  | cons first rest ih =>
    obtain ⟨manifest, -, hattempts⟩ := first.made
    rw [List.flatten_cons, List.countP_append, hattempts.countP_eq, ih, if_pos rfl,
      List.length_cons, Nat.add_comm]

lemma FileFailed.countP_eq {e : Error} (hfailed : FileFailed retry source path log e) :
    log.countP appliesFile = 0 := by
  cases hfailed with
  | unreadable unread => rfl
  | exhausted read attempts all => rw [attempts.countP_eq, if_neg (by simp)]

/-- What stops at a file has not applied all of them. -/
lemma FilesStopped.not_applied {paths : List String} {e : Error}
    (hstopped : FilesStopped retry source paths log e) : ¬ FilesApplied retry source paths log := by
  obtain ⟨done, path, rest, before, last, rfl, hdone, hfailed, rfl⟩ := hstopped
  intro hall
  have hcount := hall.countP_eq
  rw [List.countP_append, hdone.countP_eq, hfailed.countP_eq, List.length_append,
    List.length_cons] at hcount
  omega

/-- The secret, the agent and all of the files are applied. -/
def StackApplied (retry : Retry) (source : Source) (secret agent : Resource)
    (log : List (Event Platform)) : Prop :=
  ∃ start later files, log = .ofCall (.applyResource secret) (.ok ()) start ::
      .ofCall (.applyResource agent) (.ok ()) later :: files ∧
    FilesApplied retry source Manifest.monitoring files

lemma StackWrites.ok_iff {secret agent : Resource} {result : Except Error String}
    (hw : StackWrites retry source secret agent log result) :
    result = .ok secret.name ↔ StackApplied retry source secret agent log := by
  cases hw with
  | secretRefused => simp [StackApplied]
  | agentRefused => simp [StackApplied]
  | stopped files =>
    constructor
    · intro hok
      cases hok
    · rintro ⟨start, later, log, hlog, happlied⟩
      cases hlog
      exact absurd happlied files.not_applied
  | applied files =>
    constructor
    · rintro -
      exact ⟨_, _, _, rfl, files⟩
    · rintro -
      rfl

/-! ## The whole stack -/

variable {settings : Settings} {suffix : UInt64} {login password address : String}

lemma stackWrites_of_runs {o : Outcome σ Error String}
    (hr : Runs h (provision settings source suffix login password address) now s log o) :
    ∃ result, o.result = some result ∧
      StackWrites settings.retry source (loginSecret (secretName suffix) settings.ns login password)
        (agentResource (secretName suffix) settings.ns address) log result := by
  rw [provision_eq] at hr
  rcases runs_perform_mapError_bind hr with ⟨e, rfl, ho⟩ | ⟨⟨⟩, mid, t, rest, rfl, hrest⟩
  · exact ⟨_, ho, .secretRefused⟩
  rcases runs_perform_mapError_bind hrest with ⟨e, rfl, ho⟩ | ⟨⟨⟩, mid', t', rest, rfl, hfiles⟩
  · exact ⟨_, ho, .agentRefused⟩
  obtain ⟨o', hrun, rfl⟩ := runs_bind_done (g := fun _ => secretName suffix) hfiles
  obtain ⟨result, finish, u⟩ := o'
  rcases runs_applyFiles hrun with ⟨hok, happlied⟩ | ⟨e, herror, hstopped⟩
  · cases hok
    exact ⟨_, rfl, .applied happlied⟩
  · cases herror
    exact ⟨_, rfl, .stopped hstopped⟩

/-- **The writes of putting monitoring in place.**  Whatever the policy and the files are and
whatever the cluster answers: the secret is applied once, then the agent once, and then the files in
their order, each attempted until it is applied and at most as often as the policy allows.  The
first refusal of the secret or the agent, a file that cannot be read, and a file whose attempts are
all refused end it at once; the last is an error that names the file and ends with the text of the
last refusal.  It comes to the name of the secret exactly when all of the files were applied. -/
theorem provision_writes (h : Handler Platform σ) (settings : Settings) (source : Source)
    (suffix : UInt64) (login password address : String) (now : Duration) (s : σ) :
    ∃ result,
      (run h (provision settings source suffix login password address) now s).result =
        some result ∧
      StackWrites settings.retry source (loginSecret (secretName suffix) settings.ns login password)
        (agentResource (secretName suffix) settings.ns address)
        (trace h (provision settings source suffix login password address) now s) result ∧
      (result = .ok (secretName suffix) ↔
        StackApplied settings.retry source
          (loginSecret (secretName suffix) settings.ns login password)
          (agentResource (secretName suffix) settings.ns address)
          (trace h (provision settings source suffix login password address) now s)) := by
  obtain ⟨result, hresult, hwrites⟩ := stackWrites_of_runs
    (runs_self h (provision settings source suffix login password address) now s)
  exact ⟨result, hresult, hwrites, hwrites.ok_iff⟩

end Provisioner.Monitoring
