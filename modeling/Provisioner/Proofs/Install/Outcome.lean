import Provisioner.Proofs.Install.Cause
import Provisioner.Proofs.Install.Evidence
/-!
# What the end of an install says

Installs and upgrades succeed on evidence only and fail for a cause only, whatever the cluster
answers.  Where an install fails, its error is that of an install, for the state it was in.
-/

namespace Provisioner.Install

open Program

variable {σ : Type} {h : Handler Platform σ} {poll : Poll} {run : InstallRun} {s : InstallState}
  {now finish : Duration} {x : σ} {log : List (Event Platform)} {o : Outcome σ Error Unit}
  {e : Error}

/-- The installs that are asked for. -/
def Asked (run : InstallRun) : Prop :=
  (∃ request, run = .install request) ∨ (∃ subscription, run = .upgrade subscription) ∨
    ∃ subscription, run = .bootstrap subscription

/-- An install is named after its subscription. -/
lemma Asked.request_name (hrun : Asked run) :
    ∀ request, run.request = some request → request.name = run.subscription.name := by
  rintro request asked
  rcases hrun with ⟨request, rfl⟩ | ⟨subscription, rfl⟩ | ⟨subscription, rfl⟩ <;> cases asked
  rfl

/-- An install that fails has reached a state whose step fails, and its error explains that. -/
lemma Course.explained (hc : Course h poll run s now x log o) (hrun : Asked run) (hs : Ready run s)
    (ho : o.result = some (.error e)) :
    ∃ t mid y before last cause, Reaches h poll run s now x t mid y ∧
      (Program.run h (step poll run t) mid y).result = some (.error cause) ∧
      log = before ++ last ∧ e = inPhase run t cause ∧
      Explained poll run t before last cause o.finish := by
  obtain ⟨t, mid, y, before, last, cause, hreaches, hready, hstep, hbreak, hlog, he⟩ :=
    hc.breakdown hs ho
  exact ⟨t, mid, y, before, last, cause, hreaches, hstep, hlog, he,
    hbreak.explained hready hrun.request_name⟩

lemma Course.cause (hc : Course h poll run s now x log o) (hrun : Asked run) (hs : Ready run s)
    (ho : o.result = some (.error e)) : ∃ text, Cause poll run o.finish log text := by
  obtain ⟨t, mid, y, before, last, cause, -, -, rfl, -, text, hcause, -⟩ :=
    hc.explained hrun hs ho
  exact ⟨text, hcause⟩

/-- **Success on evidence, failure for a cause.**  Whatever the cluster answers, an operation that
succeeds has made all its calls, with the answers that count, and one that fails has been answered
an error, has reached the deadline of a wait or has found a service version that has failed. -/
theorem outcome_of_operation (h : Handler Platform σ) (poll : Poll) (now : Duration) (x : σ) :
    (∀ request,
      let log := trace h (installOperator poll request) now x
      let o := Program.run h (installOperator poll request) now x
      (o.result = some (.ok ()) → Installed request log) ∧
        ∀ e, o.result = some (.error e) → ∃ text, Cause poll (.install request) o.finish log text) ∧
    (∀ subscription,
      let log := trace h (upgradeOperator poll subscription) now x
      let o := Program.run h (upgradeOperator poll subscription) now x
      (o.result = some (.ok ()) → Upgraded subscription log) ∧
        ∀ e, o.result = some (.error e) →
          ∃ text, Cause poll (.upgrade subscription) o.finish log text) := by
  constructor
  · intro request log o
    have hc : Course h poll (.install request) .start now x log o :=
      runs_carryOut (runs_self h (installOperator poll request) now x)
    exact ⟨hc.installed, fun e ho =>
      hc.cause (.inl ⟨request, rfl⟩) ⟨by simp, fun _ => ⟨request, rfl⟩⟩ ho⟩
  · intro subscription log o
    have hc : Course h poll (.upgrade subscription) .subscriptionCreated now x log o :=
      runs_carryOut (runs_self h (upgradeOperator poll subscription) now x)
    exact ⟨hc.upgraded, fun e ho =>
      hc.cause (.inr (.inl ⟨subscription, rfl⟩)) ⟨by simp, by simp⟩ ho⟩

example :
    (Program.run (answering obliging) (installOperator .standard exampleRequest) 0 ()).result =
      some (.ok ()) := by
  decide +kernel

/-! ## The error of an install -/

/-- The client answers no call with the failure of an install. -/
def PlainClient (h : Handler Platform σ) : Prop :=
  ∀ call now x e, (h (.cluster call) now x).reply = .error e → e.isInstall = false

lemma PlainClient.plain (hclient : PlainClient h) {p : Work Unit}
    (hr : Runs h p now x log o) : Plain log := by
  refine hr.forall_events fun op now x e he => ?_
  cases op with
  | monitoring => cases he
  | cluster call =>
    refine hclient call now x e ?_
    rcases hreply : (h (.cluster call) now x).reply with answered | answer
    · rw [hreply] at he
      cases he
      rfl
    · rw [hreply] at he
      cases he

lemma failedVersion?_eq_some_iff {event : Event Platform} {version : ObjectKey} :
    failedVersion? event = some version ↔ ∃ found start,
      event = .ofCall (.getServiceVersion version) (.ok (some found)) start ∧
        found.phase = "Failed" := by
  constructor
  · intro hversion
    unfold failedVersion? at hversion
    split at hversion
    · rename_i _ found start
      split at hversion
      case isTrue hfailed =>
        cases hversion
        exact ⟨found, start, rfl, by simpa [ServiceVersion.isFailed] using hfailed⟩
      case isFalse => cases hversion
    · cases hversion
  · rintro ⟨found, start, rfl, hfailed⟩
    simp [failedVersion?, ServiceVersion.isFailed, hfailed]

/-- A failure is reported for the subscription exactly when it is not that of a service version of
another name. -/
lemma culprit_eq_iff :
    culprit run log = run.subscription.name ↔
      ∀ before version found start,
        log = before ++ [.ofCall (.getServiceVersion version) (.ok (some found)) start] →
        found.phase = "Failed" → version.name = run.subscription.name := by
  rcases List.eq_nil_or_concat log with rfl | ⟨earlier, event, rfl⟩
  · simp [culprit]
  · rw [List.concat_eq_append, culprit_concat]
    constructor
    · rintro hculprit before version found start hlog hfailed
      obtain ⟨-, hevent⟩ := List.append_inj' hlog rfl
      have hversion : failedVersion? event = some version :=
        failedVersion?_eq_some_iff.mpr ⟨found, start, List.singleton_inj.mp hevent, hfailed⟩
      simpa [hversion] using hculprit
    · intro hnames
      cases hversion : failedVersion? event with
      | none => rfl
      | some version =>
        obtain ⟨found, start, rfl, hfailed⟩ := failedVersion?_eq_some_iff.mp hversion
        exact hnames earlier version found start rfl hfailed

/-- **The error of an install.**  Let an install that was asked for be carried out from any state
but the last two, for a client that never answers with the failure of an install itself.  If it
fails, its error is that of an install: it names the state that was reached when a step failed, and
it ends with the text of the cause.  The operator that it names is the subscription's, unless the
install ended with a service version of another name that has failed. -/
theorem error_of_install (hrun : Asked run) (hs : s.isTerminal = false)
    (hasked : s = .start → ∃ request, run.request = some request) (hclient : PlainClient h)
    (hfail : (Program.run h (carryOut poll run s) now x).result = some (.error e)) :
    let log := trace h (carryOut poll run s) now x
    ∃ t mid y cause lead text, Reaches h poll run s now x t mid y ∧
      (Program.run h (step poll run t) mid y).result = some (.error cause) ∧
      Cause poll run (Program.run h (carryOut poll run s) now x).finish log text ∧
      e = .install (culprit run log) t.name (lead ++ text) ∧
      (culprit run log = run.subscription.name ↔ ∀ before version found start,
        log = before ++ [.ofCall (.getServiceVersion version) (.ok (some found)) start] →
        found.phase = "Failed" → version.name = run.subscription.name) := by
  intro log
  have hr := runs_self h (carryOut poll run s) now x
  have hc : Course h poll run s now x log _ := runs_carryOut hr
  have hready : Ready run s :=
    ⟨fun hfailed => by simp [hfailed, InstallState.isTerminal] at hs, hasked⟩
  obtain ⟨t, mid, y, before, last, cause, hreaches, hstep, hlog, rfl, text, hcause, htold⟩ :=
    hc.explained hrun hready hfail
  have hplain : Plain last := by
    intro event hevent
    refine hclient.plain hr event ?_
    rw [show trace h (carryOut poll run s) now x = before ++ last from hlog]
    exact List.mem_append_right before hevent
  -- no answer of the last step is the failure of an install, so `inPhase` names what is passed on
  obtain ⟨lead, herror⟩ := htold hplain
  rw [← hlog] at hcause herror
  exact ⟨t, mid, y, cause, lead, text, hreaches, hstep, hcause, herror, culprit_eq_iff⟩

/-- A cluster in which the service version of every subscription has failed. -/
def failing : (call : Call) → Except Error call.Answer
  | .getSubscription _ => .ok (some (naming "install-1" "pxc.v1"))
  | .getServiceVersion _ => .ok (some {
      metadata := { }, spec := { }
      status := some {
        phase := some "Failed", reason := some "ComponentUnhealthy", message := some "no pods" } })
  | _ => .error (.notFound "")

lemma plainClient_failing : PlainClient (answering failing) := by
  intro call now x e he
  cases call <;> cases he <;> rfl

/-- The failure of a part of the lifecycle manager whose service version has failed. -/
lemma run_failing :
    (Program.run (answering failing) (carryOut .standard (.bootstrap ⟨"default", "pxc"⟩)
      .installPlanApproved) 0 ()).result = some (.error (.install "pxc.v1" "AwaitingCompletion"
        "clusterserviceversion failed: ComponentUnhealthy: no pods")) := by
  decide +kernel

/-- The failure is that of the state in which the service version is awaited. -/
theorem error_of_install_failing :
    PlainClient (answering failing) ∧
      ∃ e, (Program.run (answering failing) (carryOut .standard (.bootstrap ⟨"default", "pxc"⟩)
          .installPlanApproved) 0 ()).result = some (.error e) ∧
        ∃ t mid y operator message, Reaches (answering failing) .standard
          (.bootstrap ⟨"default", "pxc"⟩) .installPlanApproved 0 () t mid y ∧
        t.name = "AwaitingCompletion" ∧ e = .install operator t.name message := by
  obtain ⟨t, mid, y, cause, lead, text, hreaches, -, -, herror, -⟩ :=
    error_of_install (.inr (.inr ⟨_, rfl⟩)) rfl (by simp) plainClient_failing run_failing
  have hname : t.name = "AwaitingCompletion" := by
    injection herror with _ hname
    exact hname.symm
  exact ⟨plainClient_failing, _, run_failing, t, mid, y, _, _, hreaches, hname, herror⟩

/-- It is not the subscription that the failure is reported for. -/
theorem error_names_service_version :
    ¬ ∀ (h : Handler Platform Unit) (poll : Poll) (run : InstallRun) (s : InstallState)
        (now : Duration) (e : Error), Asked run → s.isTerminal = false →
      (s = .start → ∃ request, run.request = some request) → PlainClient h →
      (Program.run h (carryOut poll run s) now ()).result = some (.error e) →
      ∃ phase message, e = .install run.subscription.name phase message := by
  intro hnames
  obtain ⟨phase, message, he⟩ := hnames (answering failing) .standard
    (.bootstrap ⟨"default", "pxc"⟩) .installPlanApproved 0 _ (.inr (.inr ⟨_, rfl⟩)) rfl
    (by simp) plainClient_failing run_failing
  injection he with hoperator
  exact absurd hoperator (by decide)

end Provisioner.Install
