import Provisioner.Proofs.CommandLine.Default
import Provisioner.Proofs.CommandLine.Reading
import Provisioner.Proofs.Config.Reading
/-!
# What decides a configuration

With a command written out, the command line, the environment and the configuration file come to one
configuration.  `effective` says field by field which of them decides: the first one that says
something about the field, and no word about another field matters.  `Invocation.configured_iff`
says that a command line arrives at this configuration, and only where the command line is one that
can be read and the file, if one is named, says settings.
-/

namespace Provisioner

namespace CommandLine

variable {env : Environment} {g : Grammar} {args rest : List String} {given own out next : Given}
  {name : String} {command : Option (String × List String)}

/-! ## Lines with a command -/

/-- The arguments name a command. -/
def HasCommand (args : List String) : Prop :=
  ∃ given name rest, Gives program {} args given (some (name, rest))

/-- The options and arguments of the commands that do something. -/
def commandGrammar? : String → Option Grammar
  | "provision" => some { switches := provisionSwitches }
  | "provision-pmm" => some { switches := serverSwitches }
  | "cleanup-monitoring" => some { switches := [] }
  | "upgrade" => some { switches := [], arguments := 1 }
  | _ => none

/-- A command line with a command: what is given before it, and what is given after it. -/
structure Line where
  globals : Given
  command : String
  own : Given

/-- The arguments are those of a line, and no path is empty. -/
def Line.IsRead (env : Environment) (args : List String) (line : Line) : Prop :=
  ∃ rest g, Gives program {} args line.globals (some (line.command, rest)) ∧
    commandGrammar? line.command = some g ∧ Gives g {} rest line.own none ∧
    line.own.arguments.length = g.arguments ∧
    line.globals.optionOr env "config" "EVEREST_CONFIG" ≠ some "" ∧
    line.globals.optionOr env "manifests-dir" "EVEREST_MANIFESTS_DIR" ≠ some ""

lemma Line.IsRead.exists_grammar {line : Line} (hline : line.IsRead env args) :
    ∃ g, commandGrammar? line.command = some g := by
  obtain ⟨-, g, -, hg, -⟩ := hline
  exact ⟨g, hg⟩

/-- The command with what is given after it. -/
def commandOf (env : Environment) (name : String) (own : Given) : Command :=
  match name with
  | "provision" => .provision (own.provision env)
  | "provision-pmm" => .provisionMonitoring (own.server env)
  | "cleanup-monitoring" => .cleanupMonitoring
  | _ => .upgrade (own.arguments.headD "")

/-- The configuration file that a line names. -/
def Line.configFile (env : Environment) (line : Line) : Option String :=
  line.globals.optionOr env "config" "EVEREST_CONFIG"

/-- What a line asks for. -/
def Line.arguments (env : Environment) (line : Line) : Arguments where
  configFile := line.configFile env
  kubeconfig := line.globals.option? "kubeconfig"
  manifestsDir := line.globals.optionOr env "manifests-dir" "EVEREST_MANIFESTS_DIR"
  command := commandOf env line.command line.own

/-! ## Reading a line -/

lemma program_clear : program.Clear := program_plain.clear

/-- Options without letters and before no commands can be told apart by their names. -/
lemma clear_of_unlettered (hnamed : ∀ s ∈ g.switches, s.name ≠ "" ∧ '=' ∉ s.name.toList ∧
      s.name ≠ "help" ∧ s.name ≠ "version" ∧
      g.switches.find? (fun t => t.name == s.name) = some s)
    (hletters : ∀ s ∈ g.switches, s.letter = none) (hcommands : g.commands = []) : g.Clear := by
  refine ⟨hnamed, fun s hs c hc => ?_, by simp [hcommands]⟩
  rw [hletters s hs] at hc
  cases hc

lemma provisionSwitches_clear : ({ switches := provisionSwitches } : Grammar).Clear := by
  refine clear_of_unlettered (fun s hs => ?_) (by decide) rfl
  simp only [provisionSwitches, serverSwitches, List.cons_append, List.nil_append, List.mem_cons,
    List.not_mem_nil, or_false] at hs
  rcases hs with rfl | rfl | rfl | rfl | rfl | rfl <;>
    exact ⟨by decide, by decide, by decide, by decide, rfl⟩

lemma serverSwitches_clear : ({ switches := serverSwitches } : Grammar).Clear := by
  refine clear_of_unlettered (fun s hs => ?_) (by decide) rfl
  simp only [serverSwitches, List.mem_cons, List.not_mem_nil, or_false] at hs
  rcases hs with rfl | rfl | rfl <;> exact ⟨by decide, by decide, by decide, by decide, rfl⟩

lemma switchless_clear (arguments : Nat) :
    ({ switches := [], arguments := arguments } : Grammar).Clear :=
  clear_of_unlettered (by simp) (by simp) rfl

lemma commandGrammar?_clear (hg : commandGrammar? name = some g) : g.Clear := by
  unfold commandGrammar? at hg
  split at hg <;> cases hg
  · exact provisionSwitches_clear
  · exact serverSwitches_clear
  · exact switchless_clear 0
  · exact switchless_clear 1

lemma commandGrammar?_commands (hg : commandGrammar? name = some g) : g.commands = [] := by
  unfold commandGrammar? at hg
  split at hg <;> cases hg <;> rfl

/-- Where no commands may follow, none does. -/
lemma Gives.command_eq_none (hgives : Gives g given args out command) (hg : g.commands = []) :
    command = none := by
  induction hgives with
  | nil | separated => rfl
  | command known =>
    rw [hg] at known
    cases known
  | option _ _ _ _ _ ih | argument _ _ _ _ ih => exact ih

/-- There are no more arguments without a name than a grammar has room for. -/
lemma Gives.arguments_length_le (hgives : Gives g given args out command)
    (hgiven : given.arguments.length ≤ g.arguments) : out.arguments.length ≤ g.arguments := by
  induction hgives with
  | nil | command => exact hgiven
  | option _ _ _ _ _ ih => exact ih hgiven
  | argument _ _ room _ ih =>
    refine ih ?_
    rw [List.length_append]
    exact room
  | separated room =>
    rcases room with rfl | room
    · simpa using hgiven
    · simpa using room

/-- The arguments of a command are read exactly where they have a meaning. -/
lemma readAll_eq_ok_iff (hg : g.Clear) (hcommands : g.commands = []) :
    readAll g args = .ok own ↔ Gives g {} args own none := by
  unfold readAll
  rw [← readOptions_eq_ok_iff hg]
  constructor
  · intro hread
    obtain ⟨⟨next, command⟩, hread, hsettle⟩ := bind_eq_ok_iff.mp hread
    have hgives := (readOptions_eq_ok_iff hg).mp ⟨next, hread, hsettle⟩
    cases hgives.command_eq_none hcommands
    exact ⟨next, hread, hsettle⟩
  · rintro ⟨next, hread, hsettle⟩
    exact bind_eq_ok_iff.mpr ⟨_, hread, hsettle⟩

/-- A command without arguments of its own is read exactly where what follows it has a meaning. -/
lemma readCommand_of_map {c : Command} (hg : commandGrammar? name = some g) (hnone : g.arguments = 0)
    (hread : readCommand env name args = (readAll g args).map (commandOf env name)) :
    readCommand env name args = .ok c ↔
      ∃ g own, commandGrammar? name = some g ∧ Gives g {} args own none ∧
        own.arguments.length = g.arguments ∧ c = commandOf env name own := by
  have hgives : ∀ {own}, readAll g args = .ok own ↔ Gives g {} args own none :=
    readAll_eq_ok_iff (commandGrammar?_clear hg) (commandGrammar?_commands hg)
  rw [hread, map_eq_ok_iff]
  constructor
  · rintro ⟨own, hown, rfl⟩
    have hown := hgives.mp hown
    have hlength := hown.arguments_length_le (Nat.zero_le _)
    exact ⟨g, own, hg, hown, by omega, rfl⟩
  · rintro ⟨g', own, hg', hown, -, rfl⟩
    cases hg.symm.trans hg'
    exact ⟨own, hgives.mpr hown, rfl⟩

/-- An upgrade is read exactly where one name follows it, and nothing but that. -/
lemma readCommand_upgrade {c : Command} :
    readCommand env "upgrade" args = .ok c ↔
      ∃ own, Gives { switches := [], arguments := 1 } {} args own none ∧
        own.arguments.length = 1 ∧ c = .upgrade (own.arguments.headD "") := by
  show (readAll { switches := [], arguments := 1 } args).bind _ = _ ↔ _
  rw [bind_eq_ok_iff]
  simp only [readAll_eq_ok_iff (switchless_clear 1) rfl]
  refine exists_congr fun own => and_congr_right fun hown => ?_
  -- There is room for one name, and one is needed.
  have hlength : own.arguments.length ≤ 1 := hown.arguments_length_le (Nat.zero_le _)
  rcases hown : own.arguments with _ | ⟨name, _ | ⟨other, more⟩⟩
  · simp
  · simp [pure, Except.pure, @eq_comm _ c]
  · rw [hown] at hlength
    simp at hlength

/-- Every command is read exactly where it is known and what follows it has a meaning. -/
lemma readCommand_eq_ok_iff {c : Command} :
    readCommand env name args = .ok c ↔
      ∃ g own, commandGrammar? name = some g ∧ Gives g {} args own none ∧
        own.arguments.length = g.arguments ∧ c = commandOf env name own := by
  by_cases hprovision : name = "provision"
  · subst hprovision
    refine readCommand_of_map rfl rfl ?_
    unfold readCommand
    cases readAll { switches := provisionSwitches } args <;> rfl
  by_cases hserver : name = "provision-pmm"
  · subst hserver
    refine readCommand_of_map rfl rfl ?_
    unfold readCommand
    cases readAll { switches := serverSwitches } args <;> rfl
  by_cases hcleanup : name = "cleanup-monitoring"
  · subst hcleanup
    refine readCommand_of_map rfl rfl ?_
    unfold readCommand
    cases readAll { switches := [] } args <;> rfl
  by_cases hupgrade : name = "upgrade"
  · subst hupgrade
    rw [readCommand_upgrade]
    constructor
    · rintro ⟨own, hown, hlength, hc⟩
      exact ⟨_, own, rfl, hown, hlength, hc⟩
    · rintro ⟨g, own, ⟨⟩, hown, hlength, hc⟩
      exact ⟨own, hown, hlength, hc⟩
  · have hnone : commandGrammar? name = none := by
      unfold commandGrammar?
      split <;> first | contradiction | rfl
    have herror : readCommand env name args = .error (readHelp args) := by
      unfold readCommand
      split <;> first | contradiction | rfl
    simp [hnone, herror]

lemma pathOr_eq_ok_iff {var : String} {path : Option String} :
    pathOr given env name var = .ok path ↔
      given.optionOr env name var ≠ some "" ∧ path = given.optionOr env name var := by
  unfold pathOr
  split
  · rename_i hempty
    simp [hempty]
  · rename_i hpath
    constructor
    · intro h
      exact ⟨hpath, (Except.ok.inj h).symm⟩
    · rintro ⟨-, rfl⟩
      rfl

lemma finish_eq_ok_iff {c : Command} {a : Arguments} :
    finish env next c = .ok a ↔ ∃ given, next.settle = .ok given ∧
      given.optionOr env "config" "EVEREST_CONFIG" ≠ some "" ∧
      given.optionOr env "manifests-dir" "EVEREST_MANIFESTS_DIR" ≠ some "" ∧
      a = { configFile := given.optionOr env "config" "EVEREST_CONFIG"
            kubeconfig := given.option? "kubeconfig"
            manifestsDir := given.optionOr env "manifests-dir" "EVEREST_MANIFESTS_DIR"
            command := c } := by
  unfold finish
  simp only [bind, pure, Except.pure, bind_eq_ok_iff, pathOr_eq_ok_iff, Except.ok.injEq]
  refine exists_congr fun given => and_congr_right fun _ => ?_
  constructor
  · rintro ⟨-, ⟨hconfig, rfl⟩, -, ⟨hmanifests, rfl⟩, rfl⟩
    exact ⟨hconfig, hmanifests, rfl⟩
  · rintro ⟨hconfig, hmanifests, rfl⟩
    exact ⟨_, ⟨hconfig, rfl⟩, _, ⟨hmanifests, rfl⟩, rfl⟩

/-- A command line with a command is read as the line that it is. -/
theorem read_eq_ok_iff {a : Arguments} (hcommand : HasCommand args) :
    read env args = .ok a ↔ ∃ line : Line, line.IsRead env args ∧ a = line.arguments env := by
  obtain ⟨globals, name, rest, hglobals⟩ := hcommand
  obtain ⟨next, hnext, hsettle⟩ := (readOptions_eq_ok_iff program_clear).mpr hglobals
  have hread : read env args =
      (readCommand env name rest).bind fun c => finish env next c := by
    unfold read
    rw [hnext]
    rfl
  rw [hread, bind_eq_ok_iff]
  simp only [readCommand_eq_ok_iff, finish_eq_ok_iff]
  constructor
  · rintro ⟨-, ⟨g, own, hg, hown, hlength, rfl⟩, given, hgiven, hconfig, hmanifests, rfl⟩
    cases hsettle.symm.trans hgiven
    exact ⟨⟨globals, name, own⟩, ⟨rest, g, hglobals, hg, hown, hlength, hconfig, hmanifests⟩, rfl⟩
  · rintro ⟨line, ⟨rest', g, hline, hg, hown, hlength, hconfig, hmanifests⟩, rfl⟩
    obtain ⟨next', hnext', hsettle'⟩ := (readOptions_eq_ok_iff program_clear).mpr hline
    -- Both are read of the same arguments, so the line starts with what was given here.
    cases hnext.symm.trans hnext'
    cases hsettle.symm.trans hsettle'
    exact ⟨_, ⟨g, line.own, hg, hown, hlength, rfl⟩, line.globals, hsettle, hconfig, hmanifests, rfl⟩

/-! ## What decides each field -/

/-- A switch of provisioning that is given after its command. -/
def Line.switched (line : Line) (name : String) : Bool :=
  line.command == "provision" && (line.own.option? name).isSome

/-- What is said about the monitoring server by an option after a command that has it, or by the
variable that stands for the option there. -/
def Line.serverOption (env : Environment) (line : Line) (name var : String) : Option String :=
  if line.command = "provision" ∨ line.command = "provision-pmm" then
    line.own.option? name <|> env var
  else none

/-- The configuration that is decided by a line, the environment and the settings of a file, each
field by the first of them that says something about it. -/
def effective (env : Environment) (line : Line) (s : FileSettings) : Config where
  kubeconfig := line.globals.option? "kubeconfig" <|> s.kubeconfig.join
  installOlm := s.installOlm.getD true && !line.switched "skip-olm"
  manifestsDir := (line.globals.option? "manifests-dir" <|> env "EVEREST_MANIFESTS_DIR" <|>
    s.manifestsDir).getD "/manifests"
  ns := s.ns.getD "default"
  operatorGroup := s.operatorGroup.getD "percona-operators-group"
  catalogSource := s.catalogSource.getD "percona-dbaas-catalog"
  catalogSourceNamespace := s.catalogSourceNamespace.getD "olm"
  waitForCompletion := s.waitForCompletion.getD false || line.switched "wait"
  channels :=
    let said (field : ChannelSettings → Option String) := s.channels.bind field
    { victoriaMetrics := (env.nonempty? "DBAAS_VM_OP_CHANNEL" <|> said (·.victoriaMetrics)).getD
        "stable-v0"
      pxc := (env.nonempty? "DBAAS_PXC_OP_CHANNEL" <|> said (·.pxc)).getD "stable-v1"
      psmdb := (env.nonempty? "DBAAS_PSMDB_OP_CHANNEL" <|> said (·.psmdb)).getD "stable-v1"
      dbaas := (env.nonempty? "DBAAS_DBAAS_OP_CHANNEL" <|> said (·.dbaas)).getD "stable-v0" }
  monitoring :=
    let said (field : ServerSettings → Option String) :=
      (s.monitoring.bind (·.server)).bind field
    { enabled := (s.monitoring.bind (·.enabled)).getD true && !line.switched "skip-monitoring"
      server :=
        { endpoint := (line.serverOption env "pmm-endpoint" "PMM_ENDPOINT" <|>
            said (·.endpoint)).getD ""
          username := (line.serverOption env "pmm-username" "PMM_USERNAME" <|>
            said (·.username)).getD ""
          password := (line.serverOption env "pmm-password" "PMM_PASSWORD" <|>
            said (·.password)).getD "" } }
  poll :=
    { interval := ((s.poll.bind (·.interval)).map Duration.ofSeconds).getD (.ofSeconds 1)
      timeout := ((s.poll.bind (·.timeout)).map Duration.ofSeconds).getD (.ofSeconds 300) }
  retry :=
    { maxAttempts := .ofNat ((s.retry.bind (·.maxAttempts)).getD 3)
      delay := ((s.retry.bind (·.delay)).map Duration.ofSeconds).getD (.ofSeconds 10) }

/-! ## The layers -/

/-- What is said first counts, and then what is said next. -/
lemma getD_orElse {α : Type} (first second : Option α) (value : α) :
    (first <|> second).getD value = first.getD (second.getD value) := by
  cases first <;> rfl

lemma channels_overridden (said : Option ChannelSettings) :
    ((said.map ChannelSettings.channels).getD {}).overridden env =
      { victoriaMetrics := (env.nonempty? "DBAAS_VM_OP_CHANNEL" <|>
          said.bind (·.victoriaMetrics)).getD "stable-v0"
        pxc := (env.nonempty? "DBAAS_PXC_OP_CHANNEL" <|> said.bind (·.pxc)).getD "stable-v1"
        psmdb := (env.nonempty? "DBAAS_PSMDB_OP_CHANNEL" <|> said.bind (·.psmdb)).getD "stable-v1"
        dbaas := (env.nonempty? "DBAAS_DBAAS_OP_CHANNEL" <|> said.bind (·.dbaas)).getD
          "stable-v0" } := by
  simp only [getD_orElse]
  cases said <;> rfl

lemma server_applied (o : ServerOptions) (said : Option ServerSettings) :
    o.applyTo ((said.map ServerSettings.server).getD {}) =
      { endpoint := (o.endpoint <|> said.bind (·.endpoint)).getD ""
        username := (o.username <|> said.bind (·.username)).getD ""
        password := (o.password <|> said.bind (·.password)).getD "" } := by
  simp only [getD_orElse]
  cases said <;> rfl

lemma poll_decided (said : Option PollSettings) :
    (said.map PollSettings.poll).getD .standard =
      { interval := ((said.bind (·.interval)).map Duration.ofSeconds).getD (.ofSeconds 1)
        timeout := ((said.bind (·.timeout)).map Duration.ofSeconds).getD (.ofSeconds 300) } := by
  cases said <;> rfl

lemma retry_decided (said : Option RetrySettings) :
    (said.map RetrySettings.retry).getD .standard =
      { maxAttempts := .ofNat ((said.bind (·.maxAttempts)).getD 3)
        delay := ((said.bind (·.delay)).map Duration.ofSeconds).getD (.ofSeconds 10) } := by
  cases said <;> rfl

lemma monitoring_decided (said : Option MonitoringSettings) :
    (said.map MonitoringSettings.monitoring).getD {} =
      { enabled := (said.bind (·.enabled)).getD true
        server := ((said.bind (·.server)).map ServerSettings.server).getD {} } := by
  cases said <;> rfl

lemma switched_eq_false (other : String) (hother : other ≠ "provision") (globals own : Given)
    (switch : String) : Line.switched ⟨globals, other, own⟩ switch = false := by
  simp [Line.switched, hother]

lemma serverOption_eq_none (other : String) (hprovision : other ≠ "provision")
    (hserver : other ≠ "provision-pmm") (globals own : Given) (option var : String) :
    Line.serverOption env ⟨globals, other, own⟩ option var = none := by
  simp [Line.serverOption, hprovision, hserver]

/-- Without options for the server, the file alone says how to reach it. -/
lemma server_decided (said : Option ServerSettings) :
    (said.map ServerSettings.server).getD {} =
      { endpoint := (none <|> said.bind (·.endpoint)).getD ""
        username := (none <|> said.bind (·.username)).getD ""
        password := (none <|> said.bind (·.password)).getD "" } := by
  cases said <;> rfl

/-- A line over a file comes to what is decided field by field. -/
theorem applyTo_eq_effective {line : Line} (hg : commandGrammar? line.command = some g)
    (s : FileSettings) :
    (line.arguments env).applyTo (s.config.overridden env) = effective env line s := by
  obtain ⟨globals, name, own⟩ := line
  have hkubeconfig : s.kubeconfig.getD none = s.kubeconfig.join := by
    cases s.kubeconfig <;> rfl
  have hmanifests : (globals.optionOr env "manifests-dir" "EVEREST_MANIFESTS_DIR").getD
      (s.manifestsDir.getD "/manifests") = (globals.option? "manifests-dir" <|>
        env "EVEREST_MANIFESTS_DIR" <|> s.manifestsDir).getD "/manifests" := by
    simp only [Given.optionOr, getD_orElse]
  unfold commandGrammar? at hg
  -- What no command changes is brought to its layers first; the rest is looked at by command.
  simp only [Arguments.applyTo, Line.arguments, Config.overridden, FileSettings.config, hkubeconfig,
    hmanifests, channels_overridden, poll_decided, retry_decided, monitoring_decided]
  split at hg <;> cases hg <;> rename_i hname <;> cases hname
  · simp only [commandOf, Command.applyTo, withServer, server_applied]
    rfl
  · simp only [commandOf, Command.applyTo, withServer, server_applied, effective,
      switched_eq_false "provision-pmm" (by decide), Bool.not_false, Bool.and_true,
      Bool.or_false]
    rfl
  · simp only [commandOf, Command.applyTo, server_decided, effective,
      switched_eq_false "cleanup-monitoring" (by decide),
      serverOption_eq_none "cleanup-monitoring" (by decide) (by decide), Bool.not_false,
      Bool.and_true, Bool.or_false]
  · simp only [server_decided, effective, switched_eq_false "upgrade" (by decide),
      serverOption_eq_none "upgrade" (by decide) (by decide), Bool.not_false,
      Bool.and_true, Bool.or_false]
    rfl

end CommandLine

namespace Invocation

open CommandLine (Command HasCommand Line commandOf effective)
open Manifest (Source)

/-- A command that is carried out with a configuration, once the cluster is connected to. -/
def carriedOut (host : Host) (command : Command) (config : Config) : Invocation :=
  match Kubeconfig.connect host.files host.env config.kubeconfig with
  | .error e => .finished 1 (some ("Failed to connect to the cluster: " ++ e.toError.message))
  | .ok connection =>
    .work connection (ApiServer.onNetwork
      (workOf config (Source.ofDirectory config.manifestsDir host.files) host.numbers command))

variable {host : Host} {args : List String}

/-- A command line is carried out with the configuration that it arrives at. -/
lemma ofArguments_eq_carriedOut {a : CommandLine.Arguments} {config : Config}
    (hread : CommandLine.read host.env args = .ok a)
    (hconfig : configOf host a.configFile = .ok config) :
    ofArguments host args = carriedOut host a.command (a.applyTo config) := by
  unfold ofArguments carriedOut
  rw [hread]
  simp only [prepare_eq_bind, hconfig, Except.bind]
  cases Kubeconfig.connect host.files host.env (a.applyTo config).kubeconfig <;> rfl

/-- **What decides a configuration.**  A command line with a command arrives at a configuration
exactly when it is a line that can be read and the settings of the file that it names are known, and
the configuration is the one that these and the environment decide field by field.  The command is
then carried out with that configuration. -/
theorem configured_iff (hcommand : HasCommand args) :
    (∀ config, configured host args = .ok (.ok config) ↔ ∃ (line : Line) (s : FileSettings),
      line.IsRead host.env args ∧ s.AreKnown host (line.configFile host.env) ∧
        config = effective host.env line s) ∧
      ∀ (line : Line) (s : FileSettings), line.IsRead host.env args →
        s.AreKnown host (line.configFile host.env) →
          ofArguments host args =
            carriedOut host (commandOf host.env line.command line.own)
              (effective host.env line s) := by
  constructor
  · intro config
    unfold configured
    rw [map_eq_ok_iff]
    simp only [CommandLine.read_eq_ok_iff hcommand, map_eq_ok_iff, configOf_eq_ok_iff]
    constructor
    · rintro ⟨-, ⟨line, hline, rfl⟩, -, ⟨s, hs, rfl⟩, rfl⟩
      obtain ⟨g, hg⟩ := hline.exists_grammar
      exact ⟨line, s, hline, hs, CommandLine.applyTo_eq_effective hg s⟩
    · rintro ⟨line, s, hline, hs, rfl⟩
      obtain ⟨g, hg⟩ := hline.exists_grammar
      exact ⟨_, ⟨line, hline, rfl⟩, _, ⟨s, hs, rfl⟩, CommandLine.applyTo_eq_effective hg s⟩
  · intro line s hline hs
    obtain ⟨g, hg⟩ := hline.exists_grammar
    have hread := (CommandLine.read_eq_ok_iff hcommand).mpr ⟨line, hline, rfl⟩
    have hconfig := configOf_eq_ok_iff.mpr ⟨s, hs, rfl⟩
    rw [ofArguments_eq_carriedOut hread hconfig, CommandLine.applyTo_eq_effective hg]
    rfl

/-- A file that says a few things, in parts of the configuration and beside them. -/
def partialText : String :=
  "install_olm: false\nchannels:\n  pxc: fast\nmonitoring:\n  pmm:\n    username: admin\n"

/-- Surroundings with that file, and with variables for the monitoring server and two channels, one
of them empty. -/
def partialHost : Host where
  env := fun name =>
    if name = "PMM_ENDPOINT" then some "http://pmm"
    else if name = "DBAAS_PSMDB_OP_CHANNEL" then some "candidate"
    else if name = "DBAAS_PXC_OP_CHANNEL" then some ""
    else none
  files := fun path =>
    if path = "c.yaml" then .ok (Text.Utf8.bytes partialText) else .error .missing
  numbers := ⟨7, 7⟩

/-- What that file, those variables and the options of a line come to. -/
def partialConfig : Config where
  installOlm := false
  waitForCompletion := true
  channels := { pxc := "fast", psmdb := "candidate" }
  monitoring :=
    { server := { endpoint := "http://pmm", username := "admin", password := "secret" } }

/-- Every layer decides something here: the file, the variables that are set, and the options. -/
theorem configured_iff_partial :
    HasCommand ["-f", "c.yaml", "provision", "--wait", "--pmm-password=secret"] ∧
      ∃ (line : Line) (s : FileSettings),
        line.IsRead partialHost.env
            ["-f", "c.yaml", "provision", "--wait", "--pmm-password=secret"] ∧
          s.AreKnown partialHost (line.configFile partialHost.env) ∧
          partialConfig = effective partialHost.env line s := by
  have hfile : CommandLine.Spelled { name := "config", letter := some 'f', allowsEmpty := false }
      "c.yaml" ["-f", "c.yaml"] := .letterApart (c := 'f') rfl (by decide)
  have hcommand : HasCommand ["-f", "c.yaml", "provision", "--wait", "--pmm-password=secret"] :=
    ⟨_, _, _, .option (by simp [CommandLine.program]) (.valued rfl hfile) rfl (.inr (by decide))
      (.command (by decide))⟩
  have hconfigured : ((configured partialHost
      ["-f", "c.yaml", "provision", "--wait", "--pmm-password=secret"]).toOption.bind
        Except.toOption) = some partialConfig := by
    decide +kernel
  obtain ⟨loaded, hloaded, hconfig⟩ := Option.bind_eq_some_iff.mp hconfigured
  rw [toOption_eq_some_iff] at hloaded hconfig
  refine ⟨hcommand, ((configured_iff hcommand).1 _).mp ?_⟩
  rw [hloaded, hconfig]

end Invocation

end Provisioner
