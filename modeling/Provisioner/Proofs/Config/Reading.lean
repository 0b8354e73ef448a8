import Provisioner.Invocation
import Provisioner.Proofs.Yaml.Record
/-!
# What a configuration file says

A file says some of the fields of a configuration, and of a part of it again some of the fields.
`FileSettings` is what it says, with nothing in the place of every field that is left out.  A
configuration is read exactly where the file says such settings, and is those settings with a
default for each field that is left out, whatever is said beside it.
-/

namespace Provisioner

open Yaml (IsText IsTruth IsNatural IsTextOrNull IsRecord IsDocument HasField)
open Text.Utf8 (Bytes)

/-- What is said of the channels. -/
structure ChannelSettings where
  victoriaMetrics : Option String := none
  pxc : Option String := none
  psmdb : Option String := none
  dbaas : Option String := none

/-- What is said of the monitoring server. -/
structure ServerSettings where
  endpoint : Option String := none
  username : Option String := none
  password : Option String := none

/-- What is said of monitoring. -/
structure MonitoringSettings where
  enabled : Option Bool := none
  server : Option ServerSettings := none

/-- What is said of waiting, in seconds. -/
structure PollSettings where
  interval : Option Nat := none
  timeout : Option Nat := none

/-- What is said of further attempts, the delay in seconds. -/
structure RetrySettings where
  maxAttempts : Option Nat := none
  delay : Option Nat := none

/-- What a configuration file says. -/
structure FileSettings where
  /-- A file or null. -/
  kubeconfig : Option (Option String) := none
  installOlm : Option Bool := none
  manifestsDir : Option String := none
  ns : Option String := none
  operatorGroup : Option String := none
  catalogSource : Option String := none
  catalogSourceNamespace : Option String := none
  waitForCompletion : Option Bool := none
  channels : Option ChannelSettings := none
  monitoring : Option MonitoringSettings := none
  poll : Option PollSettings := none
  retry : Option RetrySettings := none

/-! ## Settings in a document -/

section Document

variable (document node : Yaml.Node)

/-- The node says this of the channels. -/
def ChannelSettings.AreIn (s : ChannelSettings) : Prop :=
  ∃ given, IsRecord ["victoria_metrics", "pxc", "psmdb", "dbaas"] document node given ∧
    HasField given document "victoria_metrics" IsText s.victoriaMetrics ∧
    HasField given document "pxc" IsText s.pxc ∧
    HasField given document "psmdb" IsText s.psmdb ∧
    HasField given document "dbaas" IsText s.dbaas

/-- The node says this of the monitoring server. -/
def ServerSettings.AreIn (s : ServerSettings) : Prop :=
  ∃ given, IsRecord ["endpoint", "username", "password"] document node given ∧
    HasField given document "endpoint" IsText s.endpoint ∧
    HasField given document "username" IsText s.username ∧
    HasField given document "password" IsText s.password

/-- The node says this of monitoring. -/
def MonitoringSettings.AreIn (s : MonitoringSettings) : Prop :=
  ∃ given, IsRecord ["enabled", "pmm"] document node given ∧
    HasField given document "enabled" IsTruth s.enabled ∧
    HasField given document "pmm" ServerSettings.AreIn s.server

/-- The node stands for a number of seconds. -/
abbrev IsSeconds : Nat → Prop := IsNatural 0xFFFFFFFFFFFFFFFF document node

/-- The node says this of waiting. -/
def PollSettings.AreIn (s : PollSettings) : Prop :=
  ∃ given, IsRecord ["interval", "timeout"] document node given ∧
    HasField given document "interval" IsSeconds s.interval ∧
    HasField given document "timeout" IsSeconds s.timeout

/-- The node says this of further attempts. -/
def RetrySettings.AreIn (s : RetrySettings) : Prop :=
  ∃ given, IsRecord ["max_attempts", "delay"] document node given ∧
    HasField given document "max_attempts" (IsNatural 0xFFFFFFFF) s.maxAttempts ∧
    HasField given document "delay" IsSeconds s.delay

/-- The node says this of a configuration. -/
def FileSettings.AreIn (s : FileSettings) : Prop :=
  ∃ given, IsRecord Config.fieldNames document node given ∧
    HasField given document "kubeconfig" IsTextOrNull s.kubeconfig ∧
    HasField given document "install_olm" IsTruth s.installOlm ∧
    HasField given document "manifests_dir" IsText s.manifestsDir ∧
    HasField given document "namespace" IsText s.ns ∧
    HasField given document "operator_group" IsText s.operatorGroup ∧
    HasField given document "catalog_source" IsText s.catalogSource ∧
    HasField given document "catalog_source_namespace" IsText s.catalogSourceNamespace ∧
    HasField given document "wait_for_completion" IsTruth s.waitForCompletion ∧
    HasField given document "channels" ChannelSettings.AreIn s.channels ∧
    HasField given document "monitoring" MonitoringSettings.AreIn s.monitoring ∧
    HasField given document "poll" PollSettings.AreIn s.poll ∧
    HasField given document "retry" RetrySettings.AreIn s.retry

end Document

/-- The text of a file says this. -/
def FileSettings.AreSaid (s : FileSettings) (text : String) : Prop :=
  ∃ document, IsDocument text.toList document ∧ s.AreIn document document

/-! ## Settings over the defaults -/

/-- The channels with what is said of them. -/
def ChannelSettings.channels (s : ChannelSettings) : Channels where
  victoriaMetrics := s.victoriaMetrics.getD "stable-v0"
  pxc := s.pxc.getD "stable-v1"
  psmdb := s.psmdb.getD "stable-v1"
  dbaas := s.dbaas.getD "stable-v0"

/-- The monitoring server with what is said of it. -/
def ServerSettings.server (s : ServerSettings) : Monitoring.Server where
  endpoint := s.endpoint.getD ""
  username := s.username.getD ""
  password := s.password.getD ""

/-- Monitoring with what is said of it. -/
def MonitoringSettings.monitoring (s : MonitoringSettings) : MonitoringConfig where
  enabled := s.enabled.getD true
  server := (s.server.map ServerSettings.server).getD {}

/-- How to wait with what is said of it. -/
def PollSettings.poll (s : PollSettings) : Poll where
  interval := (s.interval.map Duration.ofSeconds).getD (.ofSeconds 1)
  timeout := (s.timeout.map Duration.ofSeconds).getD (.ofSeconds 300)

/-- How to attempt with what is said of it. -/
def RetrySettings.retry (s : RetrySettings) : Retry where
  maxAttempts := .ofNat (s.maxAttempts.getD 3)
  delay := (s.delay.map Duration.ofSeconds).getD (.ofSeconds 10)

/-- A configuration with what is said of it. -/
def FileSettings.config (s : FileSettings) : Config where
  kubeconfig := s.kubeconfig.getD none
  installOlm := s.installOlm.getD true
  manifestsDir := s.manifestsDir.getD "/manifests"
  ns := s.ns.getD "default"
  operatorGroup := s.operatorGroup.getD "percona-operators-group"
  catalogSource := s.catalogSource.getD "percona-dbaas-catalog"
  catalogSourceNamespace := s.catalogSourceNamespace.getD "olm"
  waitForCompletion := s.waitForCompletion.getD false
  channels := (s.channels.map ChannelSettings.channels).getD {}
  monitoring := (s.monitoring.map MonitoringSettings.monitoring).getD {}
  poll := (s.poll.map PollSettings.poll).getD .standard
  retry := (s.retry.map RetrySettings.retry).getD .standard

/-! ## Reading -/

section Reading

variable {document node : Yaml.Node}

lemma readSeconds_eq_ok_iff {d : Duration} :
    readSeconds document node = .ok d ↔ ∃ n, IsSeconds document node n ∧ d = .ofSeconds n := by
  unfold readSeconds
  simp only [bind, pure, Except.pure, bind_eq_ok_iff, Except.ok.injEq, Yaml.natural_eq_ok_iff,
    @eq_comm _ _ d]

lemma seconds_field_eq_ok_iff {given : List (String × Yaml.Node)} {name : String} {value d : Duration} :
    Yaml.Reader.field given document name readSeconds value = .ok d ↔
      ∃ said, HasField given document name IsSeconds said ∧
        d = (said.map Duration.ofSeconds).getD value :=
  Yaml.field_eq_ok_iff readSeconds_eq_ok_iff

lemma readChannels_eq_ok_iff {channels : Channels} :
    Channels.read document node = .ok channels ↔
      ∃ s : ChannelSettings, s.AreIn document node ∧ channels = s.channels := by
  unfold Channels.read
  simp only [bind, pure, Except.pure, bind_eq_ok_iff, Except.ok.injEq, Yaml.fields_eq_ok_iff,
    Yaml.text_field_eq_ok_iff]
  constructor
  · rintro ⟨given, hgiven, -, ⟨victoriaMetrics, hvictoriaMetrics, rfl⟩, -, ⟨pxc, hpxc, rfl⟩, -,
      ⟨psmdb, hpsmdb, rfl⟩, -, ⟨dbaas, hdbaas, rfl⟩, rfl⟩
    exact ⟨⟨victoriaMetrics, pxc, psmdb, dbaas⟩,
      ⟨given, hgiven, hvictoriaMetrics, hpxc, hpsmdb, hdbaas⟩, rfl⟩
  · rintro ⟨s, ⟨given, hgiven, hvictoriaMetrics, hpxc, hpsmdb, hdbaas⟩, rfl⟩
    exact ⟨given, hgiven, _, ⟨_, hvictoriaMetrics, rfl⟩, _, ⟨_, hpxc, rfl⟩, _, ⟨_, hpsmdb, rfl⟩, _,
      ⟨_, hdbaas, rfl⟩, rfl⟩

lemma readServer_eq_ok_iff {server : Monitoring.Server} :
    Monitoring.Server.read document node = .ok server ↔
      ∃ s : ServerSettings, s.AreIn document node ∧ server = s.server := by
  unfold Monitoring.Server.read
  simp only [bind, pure, Except.pure, bind_eq_ok_iff, Except.ok.injEq, Yaml.fields_eq_ok_iff,
    Yaml.text_field_eq_ok_iff]
  constructor
  · rintro ⟨given, hgiven, -, ⟨endpoint, hendpoint, rfl⟩, -, ⟨username, husername, rfl⟩, -,
      ⟨password, hpassword, rfl⟩, rfl⟩
    exact ⟨⟨endpoint, username, password⟩, ⟨given, hgiven, hendpoint, husername, hpassword⟩, rfl⟩
  · rintro ⟨s, ⟨given, hgiven, hendpoint, husername, hpassword⟩, rfl⟩
    exact ⟨given, hgiven, _, ⟨_, hendpoint, rfl⟩, _, ⟨_, husername, rfl⟩, _, ⟨_, hpassword, rfl⟩,
      rfl⟩

lemma readMonitoring_eq_ok_iff {monitoring : MonitoringConfig} :
    MonitoringConfig.read document node = .ok monitoring ↔
      ∃ s : MonitoringSettings, s.AreIn document node ∧ monitoring = s.monitoring := by
  unfold MonitoringConfig.read
  simp only [bind, pure, Except.pure, bind_eq_ok_iff, Except.ok.injEq, Yaml.fields_eq_ok_iff,
    Yaml.bool_field_eq_ok_iff, Yaml.field_eq_ok_iff readServer_eq_ok_iff]
  constructor
  · rintro ⟨given, hgiven, -, ⟨enabled, henabled, rfl⟩, -, ⟨server, hserver, rfl⟩, rfl⟩
    exact ⟨⟨enabled, server⟩, ⟨given, hgiven, henabled, hserver⟩, rfl⟩
  · rintro ⟨s, ⟨given, hgiven, henabled, hserver⟩, rfl⟩
    exact ⟨given, hgiven, _, ⟨_, henabled, rfl⟩, _, ⟨_, hserver, rfl⟩, rfl⟩

lemma readPoll_eq_ok_iff {poll : Poll} :
    Poll.read document node = .ok poll ↔
      ∃ s : PollSettings, s.AreIn document node ∧ poll = s.poll := by
  unfold Poll.read
  simp only [bind, pure, Except.pure, bind_eq_ok_iff, Except.ok.injEq, Yaml.fields_eq_ok_iff,
    seconds_field_eq_ok_iff]
  constructor
  · rintro ⟨given, hgiven, -, ⟨interval, hinterval, rfl⟩, -, ⟨timeout, htimeout, rfl⟩, rfl⟩
    exact ⟨⟨interval, timeout⟩, ⟨given, hgiven, hinterval, htimeout⟩, rfl⟩
  · rintro ⟨s, ⟨given, hgiven, hinterval, htimeout⟩, rfl⟩
    exact ⟨given, hgiven, _, ⟨_, hinterval, rfl⟩, _, ⟨_, htimeout, rfl⟩, rfl⟩

lemma readRetry_eq_ok_iff {retry : Retry} :
    Retry.read document node = .ok retry ↔
      ∃ s : RetrySettings, s.AreIn document node ∧ retry = s.retry := by
  unfold Retry.read
  simp only [bind, pure, Except.pure, bind_eq_ok_iff, Except.ok.injEq, Yaml.fields_eq_ok_iff,
    Yaml.natural_field_eq_ok_iff, seconds_field_eq_ok_iff]
  constructor
  · rintro ⟨given, hgiven, -, ⟨attempts, hattempts, rfl⟩, -, ⟨delay, hdelay, rfl⟩, rfl⟩
    exact ⟨⟨attempts, delay⟩, ⟨given, hgiven, hattempts, hdelay⟩, rfl⟩
  · rintro ⟨s, ⟨given, hgiven, hattempts, hdelay⟩, rfl⟩
    exact ⟨given, hgiven, _, ⟨_, hattempts, rfl⟩, _, ⟨_, hdelay, rfl⟩, rfl⟩

lemma readConfig_eq_ok_iff {config : Config} :
    Config.read document node = .ok config ↔
      ∃ s : FileSettings, s.AreIn document node ∧ config = s.config := by
  unfold Config.read
  simp only [bind, pure, Except.pure, bind_eq_ok_iff, Except.ok.injEq, Yaml.fields_eq_ok_iff,
    Yaml.text_field_eq_ok_iff, Yaml.bool_field_eq_ok_iff,
    Yaml.field_eq_ok_iff_self Yaml.nullable_text_eq_ok_iff,
    Yaml.field_eq_ok_iff readChannels_eq_ok_iff, Yaml.field_eq_ok_iff readMonitoring_eq_ok_iff,
    Yaml.field_eq_ok_iff readPoll_eq_ok_iff, Yaml.field_eq_ok_iff readRetry_eq_ok_iff]
  constructor
  · rintro ⟨given, hgiven, -, ⟨kubeconfig, hkubeconfig, rfl⟩, -, ⟨installOlm, hinstallOlm, rfl⟩, -,
      ⟨manifestsDir, hmanifestsDir, rfl⟩, -, ⟨ns, hns, rfl⟩, -, ⟨group, hgroup, rfl⟩, -,
      ⟨source, hsource, rfl⟩, -, ⟨sourceNamespace, hsourceNamespace, rfl⟩, -, ⟨wait, hwait, rfl⟩, -,
      ⟨channels, hchannels, rfl⟩, -, ⟨monitoring, hmonitoring, rfl⟩, -, ⟨poll, hpoll, rfl⟩, -,
      ⟨retry, hretry, rfl⟩, rfl⟩
    exact ⟨⟨kubeconfig, installOlm, manifestsDir, ns, group, source, sourceNamespace, wait, channels,
      monitoring, poll, retry⟩, ⟨given, hgiven, hkubeconfig, hinstallOlm, hmanifestsDir, hns, hgroup,
      hsource, hsourceNamespace, hwait, hchannels, hmonitoring, hpoll, hretry⟩, rfl⟩
  · rintro ⟨s, ⟨given, hgiven, hkubeconfig, hinstallOlm, hmanifestsDir, hns, hgroup, hsource,
      hsourceNamespace, hwait, hchannels, hmonitoring, hpoll, hretry⟩, rfl⟩
    exact ⟨given, hgiven, _, ⟨_, hkubeconfig, rfl⟩, _, ⟨_, hinstallOlm, rfl⟩, _,
      ⟨_, hmanifestsDir, rfl⟩, _, ⟨_, hns, rfl⟩, _, ⟨_, hgroup, rfl⟩, _, ⟨_, hsource, rfl⟩, _,
      ⟨_, hsourceNamespace, rfl⟩, _, ⟨_, hwait, rfl⟩, _, ⟨_, hchannels, rfl⟩, _,
      ⟨_, hmonitoring, rfl⟩, _, ⟨_, hpoll, rfl⟩, _, ⟨_, hretry, rfl⟩, rfl⟩

end Reading

/-! ## Files -/

/-- The text of a file gives the configuration that its settings make of the defaults. -/
theorem ofText_eq_ok_iff {text : String} {config : Config} :
    Config.ofText text = .ok config ↔ ∃ s : FileSettings, s.AreSaid text ∧ config = s.config := by
  unfold Config.ofText
  simp only [mapError_eq_ok_iff, Yaml.readRecord_eq_ok_iff, readConfig_eq_ok_iff]
  constructor
  · rintro ⟨document, hdocument, s, hs, hconfig⟩
    exact ⟨s, ⟨document, hdocument, hs⟩, hconfig⟩
  · rintro ⟨s, ⟨document, hdocument, hs⟩, hconfig⟩
    exact ⟨document, hdocument, s, hs, hconfig⟩

/-- What is known of the configuration besides the command line and the environment: nothing
without a file, and what the file says with one. -/
def FileSettings.AreKnown (s : FileSettings) (host : Host) : Option String → Prop
  | none => s = {}
  | some path => ∃ bytes text, host.files path = .ok bytes ∧
      Text.Utf8.string? bytes = some text ∧ s.AreSaid text

lemma load_eq_ok_iff {path : String} {content : Except Manifest.FileError Bytes} {env : Environment}
    {config : Config} :
    Config.load path content env = .ok config ↔ ∃ bytes text, content = .ok bytes ∧
      Text.Utf8.string? bytes = some text ∧
      ∃ s : FileSettings, s.AreSaid text ∧ config = s.config.overridden env := by
  cases content with
  | error e => simp [Config.load]
  | ok bytes =>
    cases htext : Text.Utf8.string? bytes with
    | none => simp [Config.load, htext]
    | some text =>
      have hload : Config.load path (.ok bytes) env =
          (Config.ofText text).map fun config => config.overridden env := by
        simp only [Config.load, htext]
        cases Config.ofText text <;> rfl
      rw [hload, map_eq_ok_iff]
      simp only [ofText_eq_ok_iff]
      constructor
      · rintro ⟨-, ⟨s, hs, rfl⟩, rfl⟩
        exact ⟨bytes, text, rfl, htext, s, hs, rfl⟩
      · rintro ⟨given, said, hgiven, hsaid, s, hs, rfl⟩
        rw [← Except.ok.inj hgiven, htext] at hsaid
        cases hsaid
        exact ⟨_, ⟨s, hs, rfl⟩, rfl⟩

/-- The configuration before any options. -/
theorem configOf_eq_ok_iff {host : Host} {path : Option String} {config : Config} :
    Invocation.configOf host path = .ok config ↔
      ∃ s : FileSettings, s.AreKnown host path ∧ config = s.config.overridden host.env := by
  cases path with
  | none =>
    constructor
    · intro hconfig
      cases hconfig
      exact ⟨{}, rfl, rfl⟩
    · rintro ⟨s, rfl, rfl⟩
      rfl
  | some path =>
    rw [Invocation.configOf, mapError_eq_ok_iff, load_eq_ok_iff]
    constructor
    · rintro ⟨bytes, text, hbytes, htext, s, hs, hconfig⟩
      exact ⟨s, ⟨bytes, text, hbytes, htext, hs⟩, hconfig⟩
    · rintro ⟨s, ⟨bytes, text, hbytes, htext, hs⟩, hconfig⟩
      exact ⟨bytes, text, hbytes, htext, s, hs, hconfig⟩

end Provisioner
