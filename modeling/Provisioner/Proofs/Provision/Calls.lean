import Provisioner.Proofs.Provision.Parts
/-!
# The calls of provisioning

Provisioning goes through its parts in order and stops at the first one that does not end well.
`InSequence` says what that means for its calls: which of them can come when, and which
subscriptions are created, whatever is answered and wherever it stops.
-/

namespace Provisioner

open Program
open Manifest (Source)

/-- The subscription that an event creates. -/
def Event.created? : Event Platform → Option Subscription
  | ⟨.cluster (.createSubscription subscription), _, _⟩ => some subscription
  | _ => none

/-- Whether an event asks something of the monitoring server or applies a single resource. -/
def Event.setsUpMonitoring : Event Platform → Bool
  | ⟨.monitoring _, _, _⟩ | ⟨.cluster (.applyResource _), _, _⟩ => true
  | _ => false

variable {σ : Type} {h : Handler Platform σ} {now : Duration} {x : σ} {log : List (Event Platform)}
  {o : Outcome σ Error Unit} {e : Event Platform}

/-! ## The subscription of an install -/

namespace Install

variable {poll : Poll} {run : InstallRun} {request : InstallRequest} {s : InstallState}

/-- Only the first step of an install creates a subscription. -/
lemma StepCall.created?_eq_none {call : Call} (hc : StepCall run s call) (he : e.Asks call)
    (hs : run.request = none ∨ s ≠ .start) : e.created? = none := by
  obtain ⟨reply, start, rfl⟩ := he
  cases hc with
  | subscription asked =>
    rcases hs with hnone | hstart
    · rw [hnone] at asked
      cases asked
    · exact absurd rfl hstart
  | _ => rfl

lemma GroupCalls.created?_eq_nil {key : ObjectKey} (hg : GroupCalls key log) :
    log.filterMap Event.created? = [] := by
  cases hg <;> rfl

/-- Whoever has made the first step of an install goes on without creating subscriptions. -/
lemma Course.created?_eq_nil (hc : Course h poll run s now x log o) (hs : s.rank ≤ 4) :
    log.filterMap Event.created? = [] := by
  rw [List.filterMap_eq_nil_iff]
  intro e he
  obtain ⟨t, call, hrank, hcall, hasks⟩ := hc.stepCall he
  refine hcall.created?_eq_none hasks (.inr fun ht => ?_)
  rw [ht] at hrank
  exact absurd (Nat.le_trans hrank hs) (by decide)

/-- An install creates the subscription of its request and no other; if it succeeds, it has. -/
lemma Course.created (hc : Course h poll (.install request) .start now x log o) :
    log.filterMap Event.created? <+: [request.subscription] ∧
      (o.result = some (.ok ()) → log.filterMap Event.created? = [request.subscription]) := by
  cases hc with
  | onward hs made rest =>
    cases runs_step hs made with
    | onward progress =>
      cases progress with
      | created asked ensured =>
        cases asked
        have hgroup := ensured.calls.created?_eq_nil
        have hrest := rest.created?_eq_nil (by decide)
        rw [List.filterMap_append, List.filterMap_append, hgroup, hrest]
        exact ⟨List.prefix_rfl, fun _ => rfl⟩
  | broken hs made =>
    refine ⟨?_, fun ho => by cases ho⟩
    cases runs_step hs made with
    | broken breakdown =>
      cases breakdown with
      | unasked unasked => exact List.nil_prefix
      | group asked refused =>
        rw [refused.calls.created?_eq_nil]
        exact List.nil_prefix
      | creation asked ensured =>
        cases asked
        rw [List.filterMap_append, ensured.calls.created?_eq_nil]
        exact List.prefix_rfl
  | unended hs made =>
    cases runs_step hs made with
    | unended unended => cases unended

end Install

namespace Provision

open Install (StepCall)

variable {config : Config} {source : Source} {numbers : Numbers}

/-! ## What the calls of a part tell -/

/-- The subscriptions that a part creates. -/
def Part.subscriptions : Part → List Subscription
  | operator request => [request.subscription]
  | manager | monitoring => []

lemma Part.Asks.created?_eq_none {part : Part} (hasks : part.Asks config e.op)
    (hpart : ∀ request, part ≠ .operator request) : e.created? = none := by
  obtain ⟨op, reply, start⟩ := e
  cases hasks with
  | bootstrap made => exact made.created?_eq_none ⟨reply, start, rfl⟩ (.inl rfl)
  | install made => exact absurd rfl (hpart _)
  | _ => rfl

/-- Each part creates the first of its subscriptions, and all of them when it ends well. -/
lemma created_of_part {part : Part} (hr : Runs h (part.work config source numbers) now x log o) :
    log.filterMap Event.created? <+: part.subscriptions ∧
      (o.result = some (.ok ()) → log.filterMap Event.created? = part.subscriptions) := by
  have hnone : (∀ request, part ≠ .operator request) → log.filterMap Event.created? = [] := by
    intro hpart
    rw [List.filterMap_eq_nil_iff]
    exact fun e he => (asks_of_part hr e he).created?_eq_none hpart
  cases part with
  | operator request => exact (Install.runs_carryOut hr).created
  | manager =>
    rw [hnone (by simp)]
    exact ⟨List.nil_prefix, fun _ => rfl⟩
  | monitoring =>
    rw [hnone (by simp)]
    exact ⟨List.nil_prefix, fun _ => rfl⟩

/-- Only monitoring asks something of the monitoring server or applies single resources. -/
lemma Part.Asks.eq_monitoring {part : Part} (hasks : part.Asks config e.op)
    (he : e.setsUpMonitoring = true) : part = .monitoring := by
  obtain ⟨op, reply, start⟩ := e
  cases hasks with
  | bootstrap made => cases made <;> cases he
  | install made => cases made <;> cases he
  | deployment | manifest => cases he
  | key | resource | stack => rfl

/-! ## The order of the parts -/

/-- Monitoring comes last, if at all. -/
lemma parts_eq_monitoring {done later : List Part}
    (hparts : parts config = done ++ .monitoring :: later) :
    config.monitoring.enabled = true ∧ done = operatorParts config := by
  have hbefore : Part.monitoring ∉ operatorParts config := by
    unfold operatorParts
    cases config.installOlm <;> simp
  cases henabled : config.monitoring.enabled with
  | false =>
    have hparts' : operatorParts config = done ++ .monitoring :: later := by
      simpa [parts, henabled] using hparts
    exact absurd (by simp [hparts']) hbefore
  | true =>
    have hparts' : operatorParts config ++ [Part.monitoring] = done ++ .monitoring :: later := by
      simpa [parts, henabled] using hparts
    -- if the two lists were cut differently, one of the parts before would be monitoring
    rcases List.append_eq_append_iff.mp hparts' with ⟨own, rfl, hown⟩ | ⟨own, hdone, hown⟩
    · cases own with
      | nil => simp
      | cons part own => simp at hown
    · cases own with
      | nil => exact ⟨rfl, by simpa using hdone.symm⟩
      | cons part own =>
        obtain ⟨rfl, rfl⟩ := List.cons_eq_cons.mp hown
        exact absurd (by simp [hdone]) hbefore

/-- The parts after the manager. -/
def partsAfterManager (config : Config) : List Part :=
  config.operatorRequests.map .operator ++ if config.monitoring.enabled then [.monitoring] else []

lemma ne_manager_of_mem {part : Part} (hmem : part ∈ partsAfterManager config) :
    part ≠ .manager := by
  rintro rfl
  unfold partsAfterManager at hmem
  cases henabled : config.monitoring.enabled <;> simp [henabled] at hmem

/-! ## All calls -/

/-- The parts have all ended well within the events. -/
def Ended (h : Handler Platform σ) (config : Config) (source : Source) (numbers : Numbers)
    (now : Duration) (x : σ) (done : List Part) (log : List (Event Platform)) : Prop :=
  ∃ logs mid y rest, AllEnd h (done.map (Part.work config source numbers)) now x logs mid y ∧
    log = logs.flatten ++ rest

/-- After the events of `before`, the part makes a call: the parts of `done` have ended well, and
the rest of the events are those of the part until then. -/
inductive MadeBy (h : Handler Platform σ) (config : Config) (source : Source) (numbers : Numbers)
    (now : Duration) (x : σ) (done : List Part) (part : Part) :
    List (Event Platform) → Event Platform → Prop
  | intro {logs : List (List (Event Platform))} {first more : List (Event Platform)}
      {e : Event Platform} {mid : Duration} {y : σ} {o : Outcome σ Error Unit}
      (ended : AllEnd h (done.map (Part.work config source numbers)) now x logs mid y)
      (runs : Runs h (part.work config source numbers) mid y (first ++ e :: more) o)
      (asks : part.Asks config e.op) :
      MadeBy h config source numbers now x done part (logs.flatten ++ first) e

/-- The subscription of an operator: from the catalog of the configuration, in its namespace, on
the channel of the operator, and with approval by hand. -/
def subscriptionOf (config : Config) (name channel : String) : Subscription where
  metadata := { name := some name, ns := some config.ns }
  spec := {
    source := config.catalogSource, sourceNamespace := config.catalogSourceNamespace,
    package := name, channel := some channel, startingVersion := none, approval := some .manual }

/-- What provisioning calls, and how it ends. -/
structure InSequence (h : Handler Platform σ) (config : Config) (source : Source)
    (numbers : Numbers) (now : Duration) (x : σ) (log : List (Event Platform))
    (o : Outcome σ Error Unit) : Prop where
  /-- It succeeds exactly when all parts do, one after the other. -/
  completed : o.result = some (.ok ()) ↔ ∃ logs,
    AllEnd h ((parts config).map (Part.work config source numbers)) now x logs o.finish o.state ∧
      log = logs.flatten
  /-- Otherwise it ends as the first part that does not succeed, with the calls of that part. -/
  stopped : o.result ≠ some (.ok ()) → ∃ done part later logs mid y last,
    parts config = done ++ part :: later ∧
      AllEnd h (done.map (Part.work config source numbers)) now x logs mid y ∧
      Runs h (part.work config source numbers) mid y last o ∧ log = logs.flatten ++ last
  /-- The subscriptions are created in the order of the operators. -/
  created : log.filterMap Event.created? <+: [
    subscriptionOf config "victoriametrics-operator" config.channels.victoriaMetrics,
    subscriptionOf config "percona-xtradb-cluster-operator" config.channels.pxc,
    subscriptionOf config "percona-server-mongodb-operator" config.channels.psmdb,
    subscriptionOf config "dbaas-operator" config.channels.dbaas]
  /-- Every call is made by a part, once the parts before that have ended well. -/
  ordered : ∀ before e after, log = before ++ e :: after →
    ∃ done part later, parts config = done ++ part :: later ∧
      MadeBy h config source numbers now x done part before e
  /-- Monitoring is set up when it is enabled, and when the operators are installed. -/
  monitored : ∀ before e after, log = before ++ e :: after → e.setsUpMonitoring = true →
    config.monitoring.enabled = true ∧
      Ended h config source numbers now x (operatorParts config) before
  /-- The calls of installing the manager come first, if it is to be installed. -/
  bootstrapped : ∃ rest, log = (if config.installOlm then
      trace h (Install.installOlm config.poll source config.catalogSourceNamespace) now x
      else []) ++ rest ∧
    ∀ e ∈ rest, ∃ part ∈ parts config, part ≠ .manager ∧ part.Asks config e.op

lemma exists_madeBy {is : List Part} {before after : List (Event Platform)}
    (hr : Runs h (inTurn (is.map (Part.work config source numbers))) now x
      (before ++ e :: after) o) :
    ∃ done part later, is = done ++ part :: later ∧
      MadeBy h config source numbers now x done part before e := by
  obtain ⟨done, part, later, logs, mid, y, first, more, end_, hparts, hended, rfl, hpart⟩ :=
    hr.exists_inTurn
  exact ⟨done, part, later, hparts, .intro hended hpart (asks_of_part hpart e (by simp))⟩

lemma created_of_runs
    (hr : Runs h (inTurn ((parts config).map (Part.work config source numbers))) now x log o) :
    log.filterMap Event.created? <+: (parts config).flatMap Part.subscriptions := by
  refine Runs.filterMap_inTurn_prefix ?_ ?_ hr
  · exact fun part _ now x log mid y hpart => (created_of_part hpart).2 rfl
  · exact fun part _ now x log o hpart => (created_of_part hpart).1

lemma flatMap_subscriptions (config : Config) :
    (parts config).flatMap Part.subscriptions = [
      subscriptionOf config "victoriametrics-operator" config.channels.victoriaMetrics,
      subscriptionOf config "percona-xtradb-cluster-operator" config.channels.pxc,
      subscriptionOf config "percona-server-mongodb-operator" config.channels.psmdb,
      subscriptionOf config "dbaas-operator" config.channels.dbaas] := by
  unfold parts operatorParts
  cases config.installOlm <;> cases config.monitoring.enabled <;> rfl

lemma stopped_of_runs
    (hr : Runs h (inTurn ((parts config).map (Part.work config source numbers))) now x log o)
    (ho : o.result ≠ some (.ok ())) :
    ∃ done part later logs mid y last, parts config = done ++ part :: later ∧
      AllEnd h (done.map (Part.work config source numbers)) now x logs mid y ∧
      Runs h (part.work config source numbers) mid y last o ∧ log = logs.flatten ++ last := by
  obtain ⟨result, finish, z⟩ := o
  obtain ⟨done, p, rest, logs, mid, y, last, hparts, hall, hlast, rfl⟩ :=
    (runs_inTurn_stopped_iff ho).mp hr
  obtain ⟨first, later, hsplit, rfl, hlater⟩ := List.map_eq_append_iff.mp hparts
  obtain ⟨part, later, rfl, rfl, rfl⟩ := List.map_eq_cons_iff.mp hlater
  exact ⟨first, part, later, logs, mid, y, last, hsplit, hall, hlast, rfl⟩

/-- What follows the manager asks for nothing that only the manager does. -/
lemma forall_asks_of_runs
    (hr : Runs h (inTurn ((partsAfterManager config).map (Part.work config source numbers))) now x
      log o) : ∀ e ∈ log, ∃ part ∈ partsAfterManager config, part.Asks config e.op := by
  intro e he
  obtain ⟨before, after, rfl⟩ := List.append_of_mem he
  obtain ⟨done, part, later, hparts, ⟨hended, hpart, hasks⟩⟩ := exists_madeBy hr
  exact ⟨part, by simp [hparts], hasks⟩

lemma bootstrapped_of_runs (hr : Runs h (cluster config source numbers) now x log o) :
    ∃ rest, log = (if config.installOlm then
        trace h (Install.installOlm config.poll source config.catalogSourceNamespace) now x
        else []) ++ rest ∧
      ∀ e ∈ rest, ∃ part ∈ parts config, part ≠ .manager ∧ part.Asks config e.op := by
  rw [cluster_eq_inTurn] at hr
  have hafter : ∀ part ∈ partsAfterManager config, part ∈ parts config := by
    intro part hmem
    unfold partsAfterManager at hmem
    unfold parts operatorParts
    rw [List.append_assoc]
    exact List.mem_append_right _ hmem
  cases holm : config.installOlm with
  | false =>
    have hparts : parts config = partsAfterManager config := by
      simp [parts, operatorParts, partsAfterManager, holm]
    rw [hparts] at hr
    refine ⟨log, rfl, fun e he => ?_⟩
    obtain ⟨part, hmem, hasks⟩ := forall_asks_of_runs hr e he
    exact ⟨part, hafter part hmem, ne_manager_of_mem hmem, hasks⟩
  | true =>
    have hparts : parts config = .manager :: partsAfterManager config := by
      simp [parts, operatorParts, partsAfterManager, holm]
    rw [hparts] at hr
    rcases runs_bind hr with ⟨_, mid, y, l₁, l₂, hmanager, hrest, rfl⟩ |
      ⟨e, finish, y, hmanager, -⟩ | ⟨finish, y, hmanager, -⟩
    · refine ⟨l₂, by rw [← hmanager.trace_eq]; rfl, fun e he => ?_⟩
      obtain ⟨part, hmem, hasks⟩ := forall_asks_of_runs hrest e he
      exact ⟨part, hafter part hmem, ne_manager_of_mem hmem, hasks⟩
    · exact ⟨[], by rw [← hmanager.trace_eq, List.append_nil]; rfl, by simp⟩
    · exact ⟨[], by rw [← hmanager.trace_eq, List.append_nil]; rfl, by simp⟩

/-- **The calls of provisioning.**  Whatever is configured and whatever the cluster and the
monitoring server answer, provisioning goes through its parts in order and stops at the first one
that does not succeed. -/
theorem cluster_calls (h : Handler Platform σ) (config : Config) (source : Source)
    (numbers : Numbers) (now : Duration) (x : σ) :
    InSequence h config source numbers now x (trace h (cluster config source numbers) now x)
      (Program.run h (cluster config source numbers) now x) := by
  have hr := runs_self h (cluster config source numbers) now x
  have hbootstrapped := bootstrapped_of_runs hr
  generalize trace h (cluster config source numbers) now x = log at hr hbootstrapped ⊢
  generalize Program.run h (cluster config source numbers) now x = o at hr ⊢
  rw [cluster_eq_inTurn] at hr
  have hordered : ∀ before e after, log = before ++ e :: after →
      ∃ done part later, parts config = done ++ part :: later ∧
        MadeBy h config source numbers now x done part before e := by
    rintro before e after rfl
    exact exists_madeBy hr
  refine ⟨⟨?_, ?_⟩, stopped_of_runs hr, ?_, hordered, ?_, hbootstrapped⟩
  · intro ho
    obtain ⟨result, finish, y⟩ := o
    cases ho
    exact runs_inTurn_ok_iff.mp hr
  · rintro ⟨logs, hall, rfl⟩
    have hok := runs_inTurn_ok_iff.mpr ⟨logs, hall, rfl⟩
    rw [← hr.run_eq, hok.run_eq]
  · rw [← flatMap_subscriptions]
    exact created_of_runs hr
  · intro before e after hlog he
    obtain ⟨done, part, later, hparts, ⟨hended, hpart, hasks⟩⟩ := hordered before e after hlog
    cases hasks.eq_monitoring he
    obtain ⟨henabled, rfl⟩ := parts_eq_monitoring hparts
    exact ⟨henabled, _, _, _, _, hended, rfl⟩

end Provision

end Provisioner
