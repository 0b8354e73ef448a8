import Provisioner.Config.Basic
import Provisioner.Text.Search
/-!
# The command line

Options of the program, then a command, then options of the command.  An option takes its value
after an equals sign or from the next argument, unless that looks like an option itself, and is
given once.  Arguments are read from left to right: the first one that is wrong or asks for help
ends the reading.  Options that are not given can come from the environment.
-/

namespace Provisioner.CommandLine

/-- Why there is nothing to do. -/
inductive Stop where
  /-- Help or the version was asked for. -/
  | information
  /-- The arguments are wrong. -/
  | usage
deriving DecidableEq

/-- An option. -/
structure Switch where
  /-- Name after two hyphens. -/
  name : String
  /-- Letter after one hyphen. -/
  letter : Option Char := none
  /-- Whether it takes a value. -/
  takesValue : Bool := true
  /-- Whether the value may be empty. -/
  allowsEmpty : Bool := true

/-- The options and further arguments of a command. -/
structure Grammar where
  switches : List Switch
  /-- Names of the commands that may follow. -/
  commands : List String := []
  /-- How many arguments without a name it takes. -/
  arguments : Nat := 0
  /-- Whether it tells its version. -/
  hasVersion : Bool := false

/-- What was given on a command line. -/
structure Given where
  /-- Options with their values; an option without one has an empty value. -/
  options : List (String × String) := []
  /-- An option whose value is not looked at yet. -/
  pending : Option (Switch × String) := none
  /-- Arguments without a name. -/
  arguments : List String := []

/-- Take an option with its value. -/
def Given.add (given : Given) (s : Switch) (value : String) : Except Stop Given :=
  if (given.options.lookup s.name).isSome ∨ (¬ s.allowsEmpty ∧ value = "") then .error .usage
  else .ok { given with options := given.options ++ [(s.name, value)] }

/-- Take the option whose value is not looked at yet. -/
def Given.settle (given : Given) : Except Stop Given :=
  match given.pending with
  | none => .ok given
  | some (s, value) => ({ given with pending := none } : Given).add s value

/-- Take an argument without a name. -/
def Given.addArgument (g : Grammar) (given : Given) (arg : String) : Except Stop Given :=
  if given.arguments.length < g.arguments then
    .ok { given with arguments := given.arguments ++ [arg] }
  else .error .usage

/-- Take arguments without a name. -/
def Given.addArguments (g : Grammar) (given : Given) : List String → Except Stop Given
  | [] => .ok given
  | arg :: rest => do (← given.addArgument g arg).addArguments g rest

/-- Whether an argument looks like an option. -/
def looksLikeOption (arg : String) : Bool := Text.startsWith "-" arg && arg != "-"

/-- An option with its value attached or in the next argument; what follows it. -/
def takeOption (given : Given) (s : Switch) (attached : Option String) (rest : List String) :
    Except Stop (Given × List String) := do
  let given ← given.settle
  match s.takesValue, attached, rest with
  | false, none, rest => return (← given.add s "", rest)
  | false, some _, _ => throw .usage
  | true, some value, rest => return (← given.add s value, rest)
  | true, none, value :: rest =>
    if looksLikeOption value then throw .usage
    else return ({ given with pending := some (s, value) }, rest)
  | true, none, [] => throw .usage

/-- An option by its name, the text after its two hyphens. -/
def takeNamed (g : Grammar) (given : Given) (text : String) (rest : List String) :
    Except Stop (Given × List String) := do
  let (name, attached) := match Text.cutFirst '=' text with
    | some (name, value) => (name, some value)
    | none => (text, none)
  if name = "help" ∨ (g.hasVersion ∧ name = "version") then
    let _ ← given.settle
    if attached.isSome then throw .usage else throw .information
  match g.switches.find? fun s => s.name == name with
  | some s => takeOption given s attached rest
  | none => throw .usage

/-- Options by their letters, the text after one hyphen.  The text after the letter of an option
with a value is its value. -/
def takeLetters (g : Grammar) (given : Given) (text : List Char) (rest : List String) :
    Except Stop (Given × List String) := do
  match text with
  | [] => return (given, rest)
  | c :: more =>
    if c = 'h' ∨ (g.hasVersion ∧ c = 'V') then
      let _ ← given.settle
      throw .information
    match g.switches.find? fun s => s.letter == some c with
    | none => throw .usage
    | some s =>
      let attached := match more with
        | [] => none
        | '=' :: value => some (String.ofList value)
        | value => some (String.ofList value)
      takeOption given s attached rest

/-- Read arguments up to a command: what was given, and the command with what follows it. -/
def readOptions (g : Grammar) : Nat → Given → List String →
    Except Stop (Given × Option (String × List String))
  | 0, given, _ => .ok (given, none)
  | _ + 1, given, [] => .ok (given, none)
  | n + 1, given, arg :: rest => do
    if g.commands.contains arg then return (given, some (arg, rest))
    match arg.toList with
    | ['-', '-'] => return (← given.addArguments g rest, none)
    | '-' :: '-' :: text =>
      let (given, rest) ← takeNamed g given (String.ofList text) rest
      readOptions g n given rest
    | '-' :: c :: text =>
      let (given, rest) ← takeLetters g given (c :: text) rest
      readOptions g n given rest
    | _ => readOptions g n (← given.addArgument g arg) rest

/-! ## The options of the program -/

/-- Options for the monitoring server. -/
structure ServerOptions where
  endpoint : Option String := none
  username : Option String := none
  password : Option String := none
deriving DecidableEq

/-- Options for provisioning. -/
structure ProvisionOptions where
  skipOlm : Bool := false
  skipMonitoring : Bool := false
  wait : Bool := false
  server : ServerOptions := {}
deriving DecidableEq

/-- What to do. -/
inductive Command where
  | provision (options : ProvisionOptions)
  | provisionMonitoring (server : ServerOptions)
  | cleanupMonitoring
  | upgrade (name : String)
deriving DecidableEq

/-- What a command line asks for. -/
structure Arguments where
  configFile : Option String
  kubeconfig : Option String
  manifestsDir : Option String
  command : Command
deriving DecidableEq

/-- The options of the program. -/
def program : Grammar where
  switches := [
    { name := "config", letter := some 'f', allowsEmpty := false },
    { name := "kubeconfig", letter := some 'k', allowsEmpty := false },
    { name := "manifests-dir", allowsEmpty := false }]
  commands := ["provision", "provision-pmm", "cleanup-monitoring", "upgrade", "help"]
  hasVersion := true

/-- The options for the monitoring server. -/
def serverSwitches : List Switch :=
  [{ name := "pmm-endpoint" }, { name := "pmm-username" }, { name := "pmm-password" }]

/-- The options for provisioning. -/
def provisionSwitches : List Switch :=
  [{ name := "skip-olm", takesValue := false }, { name := "skip-monitoring", takesValue := false },
    { name := "wait", takesValue := false }] ++ serverSwitches

/-- An option that was given. -/
def Given.option? (given : Given) (name : String) : Option String := given.options.lookup name

/-- An option that was given, or the variable that stands for it. -/
def Given.optionOr (given : Given) (env : Environment) (name var : String) :
    Option String :=
  given.option? name <|> env var

/-- The options for the monitoring server that were given. -/
def Given.server (given : Given) (env : Environment) : ServerOptions where
  endpoint := given.optionOr env "pmm-endpoint" "PMM_ENDPOINT"
  username := given.optionOr env "pmm-username" "PMM_USERNAME"
  password := given.optionOr env "pmm-password" "PMM_PASSWORD"

/-- The options for provisioning that were given. -/
def Given.provision (given : Given) (env : Environment) : ProvisionOptions where
  skipOlm := (given.option? "skip-olm").isSome
  skipMonitoring := (given.option? "skip-monitoring").isSome
  wait := (given.option? "wait").isSome
  server := given.server env

/-- Read the arguments of a command. -/
def readAll (g : Grammar) (args : List String) : Except Stop Given := do
  (← readOptions g (args.length + 1) {} args).1.settle

/-- Ask for help, or for help on a command. -/
def readHelp : List String → Stop
  | [] => .information
  | [name] => if program.commands.contains name then .information else .usage
  | _ => .usage

/-- Read a command. -/
def readCommand (env : Environment) (name : String) (args : List String) :
    Except Stop Command := do
  match name with
  | "provision" =>
    return .provision ((← readAll { switches := provisionSwitches } args).provision env)
  | "provision-pmm" =>
    return .provisionMonitoring ((← readAll { switches := serverSwitches } args).server env)
  | "cleanup-monitoring" =>
    let _ ← readAll { switches := [] } args
    return .cleanupMonitoring
  | "upgrade" =>
    match (← readAll { switches := [], arguments := 1 } args).arguments with
    | name :: _ => return .upgrade name
    | [] => throw .usage
  | _ => throw (readHelp args)

/-- A path that was given or that a variable names, which must not be empty. -/
def pathOr (given : Given) (env : Environment) (name var : String) :
    Except Stop (Option String) :=
  match given.optionOr env name var with
  | some "" => .error .usage
  | path => .ok path

/-- Read a command line.  Without a command the cluster is provisioned, with no options. -/
def read (env : Environment) (args : List String) : Except Stop Arguments := do
  let (given, command) ← readOptions program (args.length + 1) {} args
  let command ← match command with
    | some (name, rest) => readCommand env name rest
    | none => pure (Command.provision {})
  let given ← given.settle
  return {
    configFile := ← pathOr given env "config" "EVEREST_CONFIG"
    kubeconfig := given.option? "kubeconfig"
    manifestsDir := ← pathOr given env "manifests-dir" "EVEREST_MANIFESTS_DIR"
    command }

/-- What a command line can say, line by line. -/
def synopsis : List String := [
  "Usage: everest-provisioner [OPTIONS] [COMMAND]",
  "",
  "Commands:",
  "  provision            Install the operators and monitoring (the default)",
  "  provision-pmm        Make a key on the monitoring server and install monitoring with it",
  "  cleanup-monitoring   Delete what monitoring is made of",
  "  upgrade <NAME>       Approve the pending plan of an operator that is installed",
  "",
  "Options:",
  "  -f, --config <FILE>          Configuration",
  "  -k, --kubeconfig <FILE>      How to reach the cluster",
  "      --manifests-dir <DIR>    Directory of the manifests",
  "  -h, --help                   This text",
  "  -V, --version                Version",
  "",
  "Options of provision:",
  "      --skip-olm               Leave the operator lifecycle manager as it is",
  "      --skip-monitoring        Leave monitoring as it is",
  "      --wait                   Wait until each operator is installed",
  "",
  "Options of provision and provision-pmm:",
  "      --pmm-endpoint <URL>     Address of the monitoring server",
  "      --pmm-username <NAME>    Its administrator",
  "      --pmm-password <TEXT>    The password of the administrator"]

/-! ## Options over a configuration -/

/-- A monitoring server with what was given for it. -/
def ServerOptions.applyTo (o : ServerOptions) (s : Monitoring.Server) : Monitoring.Server where
  endpoint := o.endpoint.getD s.endpoint
  username := o.username.getD s.username
  password := o.password.getD s.password

/-- A configuration with another monitoring server. -/
def withServer (o : ServerOptions) (config : Config) : Config :=
  { config with
    monitoring := { config.monitoring with server := o.applyTo config.monitoring.server } }

/-- A configuration with the options of a command over it. -/
def Command.applyTo (config : Config) : Command → Config
  | .provision o =>
    withServer o.server { config with
      installOlm := config.installOlm && !o.skipOlm
      waitForCompletion := config.waitForCompletion || o.wait
      monitoring :=
        { config.monitoring with enabled := config.monitoring.enabled && !o.skipMonitoring } }
  | .provisionMonitoring o => withServer o config
  | .cleanupMonitoring | .upgrade _ => config

/-- A configuration with the options of a command line over it. -/
def Arguments.applyTo (a : Arguments) (config : Config) : Config :=
  a.command.applyTo { config with
    kubeconfig := a.kubeconfig <|> config.kubeconfig
    manifestsDir := a.manifestsDir.getD config.manifestsDir }

end Provisioner.CommandLine
