import Provisioner.Invocation
import Provisioner.Proofs.CommandLine.Options
/-!
# The command that is left out

Without a command the cluster is provisioned, as it is with the command for that and no options of
its own.  The two command lines carry out the same work with the configuration that they arrive at,
and `Invocation.provision_by_default` says how the two configurations differ: only where the command
is written out do the variables for the monitoring server stand for the options that are not given.
-/

namespace Provisioner

open CommandLine (Arguments Command Given OptionArgs Stop ServerOptions ProvisionOptions program
  withServer)

namespace CommandLine

variable {env : Environment} {args : List String}

/-- What the variables say about the monitoring server. -/
def ServerOptions.ofEnvironment (env : Environment) : ServerOptions where
  endpoint := env "PMM_ENDPOINT"
  username := env "PMM_USERNAME"
  password := env "PMM_PASSWORD"

/-- The command to provision with nothing given after it. -/
def provisionCommand (env : Environment) : Command :=
  .provision { server := .ofEnvironment env }

lemma readCommand_provision (env : Environment) :
    readCommand env "provision" [] = .ok (provisionCommand env) := rfl

/-- The arguments of a command line, once its options and its command are read. -/
def finish (env : Environment) (given : Given) (command : Command) : Except Stop Arguments := do
  let given ← given.settle
  return {
    configFile := ← pathOr given env "config" "EVEREST_CONFIG"
    kubeconfig := given.option? "kubeconfig"
    manifestsDir := ← pathOr given env "manifests-dir" "EVEREST_MANIFESTS_DIR"
    command }

/-- The command is kept as it is. -/
lemma finish_eq_map (env : Environment) (given : Given) (command other : Command) :
    finish env given command =
      (finish env given other).map fun a => { a with command := command } := by
  unfold finish
  cases given.settle with
  | error stop => rfl
  | ok given =>
    simp only [bind, Except.bind]
    cases pathOr given env "config" "EVEREST_CONFIG" with
    | error stop => rfl
    | ok configFile =>
      simp only
      cases pathOr given env "manifests-dir" "EVEREST_MANIFESTS_DIR" <;> rfl

/-- Options that are read to one result, with no command and with the one to provision. -/
lemma read_of_readToEnd {result : Except Stop Given} (hend : ReadToEnd program {} args result)
    (env : Environment) :
    read env args = result.bind (fun given => finish env given (.provision {})) ∧
      read env (args ++ ["provision"]) =
        result.bind fun given => finish env given (provisionCommand env) := by
  obtain ⟨halone, hcommand⟩ := hend
  have hfuel : args.length < (args ++ ["provision"]).length + 1 := by
    rw [List.length_append]
    omega
  constructor
  · unfold read
    rw [halone _ (Nat.lt_succ_self _)]
    cases result <;> rfl
  · unfold read
    rw [hcommand _ "provision" [] hfuel (by decide)]
    cases result with
    | error stop => rfl
    | ok given =>
      show (readCommand env "provision" []).bind (fun command => finish env given command) = _
      rw [readCommand_provision]
      rfl

/-- A command line of options is read the same with the command to provision after it, but for that
command. -/
theorem read_provision (ho : OptionArgs program args) (env : Environment) :
    read env (args ++ ["provision"]) =
      (read env args).map fun a => { a with command := provisionCommand env } := by
  obtain ⟨result, hend⟩ := ho.exists_readToEnd program_plain {}
  obtain ⟨homitted, hprovision⟩ := read_of_readToEnd hend env
  rw [homitted, hprovision]
  cases result with
  | error stop => rfl
  | ok given => exact finish_eq_map env given _ _

/-- Without a command the cluster is provisioned, with no options. -/
lemma command_of_read (ho : OptionArgs program args) {a : Arguments}
    (ha : read env args = .ok a) : a.command = .provision {} := by
  obtain ⟨result, hend⟩ := ho.exists_readToEnd program_plain {}
  rw [(read_of_readToEnd hend env).1] at ha
  cases result with
  | error stop => cases ha
  | ok given =>
    have hmap := finish_eq_map env given (.provision {}) (.provision {})
    have hfinish : finish env given (.provision {}) = .ok a := ha
    rw [hfinish] at hmap
    exact congrArg Arguments.command (Except.ok.inj hmap)

/-- The options of a command line are applied, and then what the variables say. -/
lemma applyTo_provisionCommand {a : Arguments} (ha : a.command = .provision {}) (config : Config) :
    ({ a with command := provisionCommand env } : Arguments).applyTo config =
      withServer (.ofEnvironment env) (a.applyTo config) := by
  unfold Arguments.applyTo
  rw [ha]
  rfl

end CommandLine

namespace Invocation

/-- The configuration that a command line arrives at, once it is read and the file that it names is
loaded. -/
def configured (host : Host) (args : List String) : Except Stop (Except String Config) :=
  (CommandLine.read host.env args).map fun a => (configOf host a.configFile).map a.applyTo

/-- Provisioning with the configuration that a command line arrives at. -/
def provisioned (host : Host) : Except Stop (Except String Config) → Invocation
  | .error .information => .finished 0 none
  | .error .usage => .finished 2 none
  | .ok (.error message) => .finished 1 (some message)
  | .ok (.ok config) =>
    match Kubeconfig.connect host.files host.env config.kubeconfig with
    | .error e => .finished 1 (some ("Failed to connect to the cluster: " ++ e.toError.message))
    | .ok connection =>
      .work connection (ApiServer.onNetwork (Provision.cluster config
        (Manifest.Source.ofDirectory config.manifestsDir host.files) host.numbers))

variable {host : Host} {args : List String}

/-- A command line that is read becomes what its configuration says, once that is loaded. -/
lemma prepare_eq_bind (host : Host) (a : Arguments) :
    prepare host a = (configOf host a.configFile).bind fun config =>
      ((Kubeconfig.connect host.files host.env (a.applyTo config).kubeconfig).mapError fun e =>
        "Failed to connect to the cluster: " ++ e.toError.message).bind fun connection =>
          .ok (.work connection (ApiServer.onNetwork (workOf (a.applyTo config)
            (Manifest.Source.ofDirectory (a.applyTo config).manifestsDir host.files) host.numbers
            a.command))) := rfl

/-- The work of provisioning depends on the configuration alone. -/
lemma ofArguments_eq_provisioned
    (hcommand : ∀ a, CommandLine.read host.env args = .ok a → ∃ options,
      a.command = .provision options) :
    ofArguments host args = provisioned host (configured host args) := by
  unfold ofArguments configured
  cases hread : CommandLine.read host.env args with
  | error stop => cases stop <;> rfl
  | ok a =>
    obtain ⟨options, ha⟩ := hcommand a hread
    simp only [prepare_eq_bind, ha, Except.map]
    cases configOf host a.configFile with
    | error message => rfl
    | ok config =>
      simp only [Except.bind, provisioned]
      cases Kubeconfig.connect host.files host.env (a.applyTo config).kubeconfig <;> rfl

/-- Another server makes no difference where it is the one that is configured. -/
lemma withServer_eq_self_iff {options : ServerOptions} {config : Config} :
    withServer options config = config ↔
      options.applyTo config.monitoring.server = config.monitoring.server := by
  constructor
  · intro h
    exact congrArg (fun c : Config => c.monitoring.server) h
  · intro h
    unfold withServer
    rw [h]

lemma configured_provision (ho : OptionArgs program args) :
    configured host (args ++ ["provision"]) =
      (configured host args).map (·.map (withServer (.ofEnvironment host.env))) := by
  unfold configured
  rw [CommandLine.read_provision ho]
  cases hread : CommandLine.read host.env args with
  | error stop => rfl
  | ok a =>
    simp only [Except.map]
    cases configOf host a.configFile with
    | error message => rfl
    | ok config =>
      have hcommand := CommandLine.command_of_read ho hread
      exact congrArg (fun c => Except.ok (Except.ok c))
        (CommandLine.applyTo_provisionCommand hcommand config)

/-- **The command that is left out.**  After any options of the program, a command line without a
command and one with the command to provision both provision with the configuration that they
arrive at.  The configuration of the second one is that of the first one with what the variables
say about the monitoring server, so they are the same exactly when the variables that are set say
what is configured anyway. -/
theorem provision_by_default (host : Host) {globals : List String}
    (ho : OptionArgs program globals) :
    (∀ args ∈ [globals, globals ++ ["provision"]],
        ofArguments host args = provisioned host (configured host args)) ∧
      configured host (globals ++ ["provision"]) =
        (configured host globals).map (·.map (withServer (.ofEnvironment host.env))) ∧
      (configured host (globals ++ ["provision"]) = configured host globals ↔
        ∀ config, configured host globals = .ok (.ok config) →
          (ServerOptions.ofEnvironment host.env).applyTo config.monitoring.server =
            config.monitoring.server) := by
  refine ⟨?_, configured_provision ho, ?_⟩
  · intro args hargs
    refine ofArguments_eq_provisioned fun a ha => ?_
    simp only [List.mem_cons, List.not_mem_nil, or_false] at hargs
    rcases hargs with rfl | rfl
    · exact ⟨_, CommandLine.command_of_read ho ha⟩
    · rw [CommandLine.read_provision ho] at ha
      cases hread : CommandLine.read host.env globals with
      | error stop =>
        rw [hread] at ha
        cases ha
      | ok b =>
        rw [hread] at ha
        cases ha
        exact ⟨_, rfl⟩
  · rw [configured_provision ho]
    cases configured host globals with
    | error stop => simp [Except.map]
    | ok loaded =>
      cases loaded with
      | error message => simp [Except.map]
      | ok config => simp [Except.map, withServer_eq_self_iff]

/-- Surroundings without files, in which one variable says where the monitoring server is. -/
def endpointHost : Host where
  env := fun name => if name = "PMM_ENDPOINT" then some "http://pmm" else none
  files := fun _ => .error .missing
  numbers := ⟨7, 7⟩

/-- With two options, one of each spelling, the variable counts where the command is given. -/
theorem provision_by_default_endpoint :
    OptionArgs program ["--kubeconfig=admin", "--manifests-dir", "manifests"] ∧
      configured endpointHost (["--kubeconfig=admin", "--manifests-dir", "manifests"] ++
          ["provision"]) =
        (configured endpointHost ["--kubeconfig=admin", "--manifests-dir", "manifests"]).map
          (·.map (withServer (.ofEnvironment endpointHost.env))) := by
  have hkubeconfig : CommandLine.Spelled
      { name := "kubeconfig", letter := some 'k', allowsEmpty := false } "admin"
      ["--kubeconfig=admin"] := .attached
  have hmanifests : CommandLine.Spelled { name := "manifests-dir", allowsEmpty := false }
      "manifests" ["--manifests-dir", "manifests"] := .apart (by decide)
  have ho : OptionArgs program ["--kubeconfig=admin", "--manifests-dir", "manifests"] :=
    .option (by simp [program]) hkubeconfig (.option (by simp [program]) hmanifests .nil)
  exact ⟨ho, (provision_by_default endpointHost ho).2.1⟩

/-- The variable makes a difference to the configuration, and only one command line sees it. -/
theorem default_without_variables :
    ¬ ∀ (host : Host) (globals : List String), OptionArgs program globals →
      configured host (globals ++ ["provision"]) = configured host globals ∧
        ofArguments host (globals ++ ["provision"]) = ofArguments host globals := by
  intro hsame
  have hconfigured := (hsame endpointHost [] .nil).1
  have hendpoint := congrArg (fun result : Except Stop (Except String Config) =>
    result.toOption.map fun loaded => loaded.toOption.map fun config =>
      config.monitoring.server.endpoint) hconfigured
  exact absurd hendpoint (by decide +kernel)

end Invocation

end Provisioner
