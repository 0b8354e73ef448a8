import Provisioner.CommandLine
import Mathlib.Tactic.Lemma
/-!
# Options before a command

An option takes the same arguments and means the same whatever comes after it.  So options are read
the same whether they end the command line or a command follows them.
-/

namespace Provisioner.CommandLine

variable {g : Grammar} {s : Switch} {value : String} {given next : Given}
  {first args rest : List String}

/-! ## Options as they stand on a command line -/

/-- An option with its value: by its name or by its letter, with the value in the same argument or
in the next one. -/
inductive Spelled (s : Switch) (value : String) : List String → Prop
  | attached : Spelled s value ["--" ++ s.name ++ "=" ++ value]
  | apart (plain : looksLikeOption value = false) : Spelled s value ["--" ++ s.name, value]
  | letterAttached {c : Char} (letter : s.letter = some c) (nonempty : value ≠ "")
      (unequal : value.toList.head? ≠ some '=') :
      Spelled s value ["-" ++ String.singleton c ++ value]
  | letterEquals {c : Char} (letter : s.letter = some c) :
      Spelled s value ["-" ++ String.singleton c ++ "=" ++ value]
  | letterApart {c : Char} (letter : s.letter = some c) (plain : looksLikeOption value = false) :
      Spelled s value ["-" ++ String.singleton c, value]

lemma Spelled.ne_nil (hspelled : Spelled s value first) : first ≠ [] := by
  cases hspelled <;> exact List.cons_ne_nil _ _

/-- An argument that asks for help or for the version. -/
def AsksInformation (g : Grammar) (arg : String) : Prop :=
  arg = "--help" ∨ arg = "-h" ∨ (g.hasVersion = true ∧ (arg = "--version" ∨ arg = "-V"))

/-- Options, one after the other. -/
inductive OptionArgs (g : Grammar) : List String → Prop
  | nil : OptionArgs g []
  | option {s : Switch} {value : String} {first args : List String} (known : s ∈ g.switches)
      (spelled : Spelled s value first) (more : OptionArgs g args) : OptionArgs g (first ++ args)
  | information {arg : String} {args : List String} (asks : AsksInformation g arg)
      (more : OptionArgs g args) : OptionArgs g (arg :: args)

/-- The options of a grammar can be told apart, from each other, from the ones that every grammar
has, and from commands. -/
structure Grammar.Clear (g : Grammar) : Prop where
  named : ∀ s ∈ g.switches, s.name ≠ "" ∧ '=' ∉ s.name.toList ∧ s.name ≠ "help" ∧
    s.name ≠ "version" ∧ g.switches.find? (fun t => t.name == s.name) = some s
  lettered : ∀ s ∈ g.switches, ∀ c, s.letter = some c → c ≠ '-' ∧ c ≠ 'h' ∧ c ≠ 'V' ∧
    g.switches.find? (fun t => t.letter == some c) = some s
  unhyphened : ∀ c ∈ g.commands, c.toList.head? ≠ some '-'

/-- The options of a grammar all take values and can be told apart, from each other, from the ones
that every grammar has, and from commands. -/
structure Grammar.Plain (g : Grammar) : Prop where
  valued : ∀ s ∈ g.switches, s.takesValue = true
  named : ∀ s ∈ g.switches, s.name ≠ "" ∧ '=' ∉ s.name.toList ∧ s.name ≠ "help" ∧
    s.name ≠ "version" ∧ g.switches.find? (fun t => t.name == s.name) = some s
  lettered : ∀ s ∈ g.switches, ∀ c, s.letter = some c → c ≠ '-' ∧ c ≠ 'h' ∧ c ≠ 'V' ∧
    g.switches.find? (fun t => t.letter == some c) = some s
  unhyphened : ∀ c ∈ g.commands, c.toList.head? ≠ some '-'

lemma Grammar.Plain.clear (hg : g.Plain) : g.Clear := ⟨hg.named, hg.lettered, hg.unhyphened⟩

lemma program_plain : program.Plain := by
  constructor
  · decide
  · intro s hs
    simp only [program, List.mem_cons, List.not_mem_nil, or_false] at hs
    rcases hs with rfl | rfl | rfl <;>
      exact ⟨by decide, by decide, by decide, by decide, rfl⟩
  · intro s hs c hc
    simp only [program, List.mem_cons, List.not_mem_nil, or_false] at hs
    rcases hs with rfl | rfl | rfl <;> cases hc <;>
      exact ⟨by decide, by decide, by decide, rfl⟩
  · decide

/-! ## One option -/

/-- An option that is named with its value attached. -/
lemma takeNamed_attached (hg : g.Clear) (hs : s ∈ g.switches) :
    takeNamed g given (String.ofList (s.name.toList ++ '=' :: value.toList)) rest =
      takeOption given s (some value) rest := by
  obtain ⟨-, hequal, hhelp, hversion, hfind⟩ := hg.named s hs
  have hcut : Text.cutFirst '=' (String.ofList (s.name.toList ++ '=' :: value.toList)) =
      some (s.name, value) := by
    rw [Text.cutFirst, String.toList_ofList, Text.splitFirst_append _ hequal]
    simp
  unfold takeNamed
  rw [hcut]
  dsimp only
  rw [if_neg (by simp [hhelp, hversion]), hfind]

/-- An option that is named alone. -/
lemma takeNamed_apart (hg : g.Clear) (hs : s ∈ g.switches) :
    takeNamed g given s.name rest = takeOption given s none rest := by
  obtain ⟨-, hequal, hhelp, hversion, hfind⟩ := hg.named s hs
  have hcut : Text.cutFirst '=' s.name = none := by
    rw [Text.cutFirst, Text.splitFirst_eq_none.mpr hequal]
    rfl
  unfold takeNamed
  rw [hcut]
  dsimp only
  rw [if_neg (by simp [hhelp, hversion]), hfind]

/-- The value that stands after a letter. -/
def attachedTo : List Char → Option String
  | [] => none
  | '=' :: value => some (String.ofList value)
  | value => some (String.ofList value)

lemma attachedTo_eq_some {text : List Char} (nonempty : text ≠ [])
    (unequal : text.head? ≠ some '=') : attachedTo text = some (String.ofList text) := by
  unfold attachedTo
  split
  · exact absurd rfl nonempty
  · exact absurd rfl unequal
  · rfl

lemma takeLetters_eq (hg : g.Clear) (hs : s ∈ g.switches) {c : Char} (hc : s.letter = some c)
    (text : List Char) :
    takeLetters g given (c :: text) rest = takeOption given s (attachedTo text) rest := by
  obtain ⟨-, hhelp, hversion, hfind⟩ := hg.lettered s hs c hc
  unfold takeLetters
  dsimp only
  rw [if_neg (by simp [hhelp, hversion]), hfind]
  rfl

/-! ## Reading them -/

lemma not_isCommand (hg : g.Clear) {arg : String} {text : List Char}
    (harg : arg.toList = '-' :: text) : g.commands.contains arg = false := by
  rw [Bool.eq_false_iff]
  intro hcontains
  have hmem : arg ∈ g.commands := by simpa using hcontains
  exact hg.unhyphened arg hmem (by rw [harg]; rfl)

/-- An argument that starts with two hyphens and goes on is an option. -/
lemma readOptions_named (hg : g.Clear) {arg : String} {text : List Char} (n : Nat)
    (harg : arg.toList = '-' :: '-' :: text) (htext : text ≠ []) :
    readOptions g (n + 1) given (arg :: rest) =
      (takeNamed g given (String.ofList text) rest).bind fun next =>
        readOptions g n next.1 next.2 := by
  obtain ⟨d, text, rfl⟩ := List.exists_cons_of_ne_nil htext
  rw [readOptions, not_isCommand hg harg, harg]
  rfl

/-- An argument that starts with a hyphen and a letter is an option. -/
lemma readOptions_lettered (hg : g.Clear) {arg : String} {c : Char} {text : List Char} (n : Nat)
    (harg : arg.toList = '-' :: c :: text) (hc : c ≠ '-') :
    readOptions g (n + 1) given (arg :: rest) =
      (takeLetters g given (c :: text) rest).bind fun next =>
        readOptions g n next.1 next.2 := by
  rw [readOptions, not_isCommand hg harg, harg, if_neg (by simp)]
  split
  · rename_i heq
    cases heq
    exact absurd rfl hc
  · rename_i heq
    cases heq
    exact absurd rfl hc
  · rename_i heq
    cases heq
    rfl
  · rename_i hother
    exact absurd rfl (hother c text)

/-- What an option with a value makes of what was given before. -/
lemma takeOption_attached (hs : s.takesValue = true) (value : String) (rest : List String) :
    takeOption given s (some value) rest =
      (given.settle.bind fun given => given.add s value).map fun given => (given, rest) := by
  unfold takeOption
  rw [hs]
  cases given.settle <;> rfl

lemma takeOption_apart (hs : s.takesValue = true) (plain : looksLikeOption value = false)
    (rest : List String) :
    takeOption given s none (value :: rest) =
      given.settle.map fun given => ({ given with pending := some (s, value) }, rest) := by
  unfold takeOption
  rw [hs]
  cases given.settle with
  | error stop => rfl
  | ok given =>
    show (if looksLikeOption value = true then _ else _) = _
    rw [if_neg (by simp [plain])]
    rfl

/-- Asking for help or for the version ends the reading. -/
lemma takeNamed_information {name : String}
    (hname : name = "help" ∨ (g.hasVersion = true ∧ name = "version")) :
    takeNamed g given name rest = given.settle.bind fun _ => .error .information := by
  have hcut : Text.cutFirst '=' name = none := by
    rcases hname with rfl | ⟨-, rfl⟩ <;> rfl
  unfold takeNamed
  rw [hcut]
  dsimp only
  rw [if_pos hname]
  cases given.settle <;> rfl

lemma takeLetters_information {c : Char} {text : List Char}
    (hc : c = 'h' ∨ (g.hasVersion = true ∧ c = 'V')) :
    takeLetters g given (c :: text) rest = given.settle.bind fun _ => .error .information := by
  unfold takeLetters
  dsimp only
  rw [if_pos hc]
  cases given.settle <;> rfl

/-! ## Reading options -/

/-- The first arguments are read by themselves: they make `next` of what was given before, whatever
comes after them. -/
def ReadAlone (g : Grammar) (given : Given) (first : List String) (next : Except Stop Given) :
    Prop :=
  ∀ n rest, readOptions g (n + 1) given (first ++ rest) =
    next.bind fun given => readOptions g n given rest

lemma pending_of_settle (hsettle : given.settle = .ok next) : next.pending = none := by
  obtain ⟨options, pending, arguments⟩ := given
  cases pending with
  | none =>
    cases hsettle
    rfl
  | some last =>
    unfold Given.settle Given.add at hsettle
    dsimp only at hsettle
    split at hsettle
    · cases hsettle
    · cases hsettle
      rfl

lemma settle_of_pending (hpending : given.pending = none) : given.settle = .ok given := by
  unfold Given.settle
  rw [hpending]

/-- Where nothing is pending, nothing is left to settle after an option is taken. -/
lemma add_settle (hpending : given.pending = none) (s : Switch) (value : String) :
    (given.add s value).bind Given.settle = given.add s value := by
  unfold Given.add
  split
  · rfl
  · exact settle_of_pending hpending

/-- The first arguments are read by themselves as an option with its value. -/
def ReadAs (g : Grammar) (given : Given) (first : List String) (s : Switch) (value : String) :
    Prop :=
  ∃ next, ReadAlone g given first next ∧
    next.bind Given.settle = given.settle.bind fun given => given.add s value

/-- What it makes of them is to take an option with its value. -/
lemma readAs_attached {arg : String} (value : String) (hs : s.takesValue = true)
    (htakes : ∀ n rest, readOptions g (n + 1) given (arg :: rest) =
      (takeOption given s (some value) rest).bind fun next => readOptions g n next.1 next.2) :
    ReadAs g given [arg] s value := by
  refine ⟨given.settle.bind fun given => given.add s value, fun n rest => ?_, ?_⟩
  · rw [List.singleton_append, htakes, takeOption_attached hs]
    cases given.settle.bind fun given => given.add s value <;> rfl
  · cases hsettle : given.settle with
    | error stop => rfl
    | ok settled => exact add_settle (pending_of_settle hsettle) s value

/-- Or to take an option whose value is the next argument. -/
lemma readAs_apart {arg : String} (hs : s.takesValue = true)
    (plain : looksLikeOption value = false)
    (htakes : ∀ n rest, readOptions g (n + 1) given (arg :: rest) =
      (takeOption given s none rest).bind fun next => readOptions g n next.1 next.2) :
    ReadAs g given [arg, value] s value := by
  refine ⟨given.settle.map fun given => { given with pending := some (s, value) },
    fun n rest => ?_, ?_⟩
  · rw [List.cons_append, htakes, List.singleton_append, takeOption_apart hs plain]
    cases given.settle <;> rfl
  · cases hsettle : given.settle with
    | error stop => rfl
    | ok settled =>
      have hpending := pending_of_settle hsettle
      obtain ⟨options, pending, arguments⟩ := settled
      subst hpending
      rfl

/-- An option with its value is read by itself, however it is spelled. -/
lemma Spelled.readAs (hspelled : Spelled s value first) (hg : g.Clear) (hs : s ∈ g.switches)
    (hvalued : s.takesValue = true) (given : Given) : ReadAs g given first s value := by
  cases hspelled with
  | attached =>
    have harg : ("--" ++ s.name ++ "=" ++ value).toList =
        '-' :: '-' :: (s.name.toList ++ '=' :: value.toList) := by
      simp [String.toList_append]
    refine readAs_attached value hvalued fun n rest => ?_
    rw [readOptions_named hg n harg (by simp), takeNamed_attached hg hs]
  | apart plain =>
    have harg : ("--" ++ s.name).toList = '-' :: '-' :: s.name.toList := by
      simp [String.toList_append]
    have hname : s.name.toList ≠ [] := by
      simpa using (hg.named s hs).1
    refine readAs_apart hvalued plain fun n rest => ?_
    rw [readOptions_named hg n harg hname, String.ofList_toList, takeNamed_apart hg hs]
  | @letterAttached c letter nonempty unequal =>
    have harg : ("-" ++ String.singleton c ++ value).toList = '-' :: c :: value.toList := by
      simp [String.toList_append]
    have hvalue : attachedTo value.toList = some value := by
      rw [attachedTo_eq_some (by simpa using nonempty) unequal, String.ofList_toList]
    refine readAs_attached value hvalued fun n rest => ?_
    rw [readOptions_lettered hg n harg (hg.lettered s hs c letter).1,
      takeLetters_eq hg hs letter, hvalue]
  | @letterEquals c letter =>
    have harg : ("-" ++ String.singleton c ++ "=" ++ value).toList =
        '-' :: c :: '=' :: value.toList := by
      simp
    have hvalue : attachedTo ('=' :: value.toList) = some value := by
      rw [attachedTo, String.ofList_toList]
    refine readAs_attached value hvalued fun n rest => ?_
    rw [readOptions_lettered hg n harg (hg.lettered s hs c letter).1,
      takeLetters_eq hg hs letter, hvalue]
  | @letterApart c letter plain =>
    have harg : ("-" ++ String.singleton c).toList = ['-', c] := by
      simp
    refine readAs_apart hvalued plain fun n rest => ?_
    rw [readOptions_lettered hg n harg (hg.lettered s hs c letter).1,
      takeLetters_eq hg hs letter, attachedTo]

/-- Asking for help or for the version is read by itself as well. -/
lemma AsksInformation.readAlone {arg : String} (harg : AsksInformation g arg) (hg : g.Clear)
    (given : Given) :
    ReadAlone g given [arg] (given.settle.bind fun _ => .error .information) := by
  have hhelp : "--help".toList = '-' :: '-' :: "help".toList := rfl
  have hversion : "--version".toList = '-' :: '-' :: "version".toList := rfl
  have hh : "-h".toList = ['-', 'h'] := rfl
  have hv : "-V".toList = ['-', 'V'] := rfl
  intro n rest
  rw [List.singleton_append]
  rcases harg with rfl | rfl | ⟨htells, rfl | rfl⟩
  · rw [readOptions_named hg n hhelp (by decide), String.ofList_toList,
      takeNamed_information (.inl rfl)]
    cases given.settle <;> rfl
  · rw [readOptions_lettered hg n hh (by decide), takeLetters_information (.inl rfl)]
    cases given.settle <;> rfl
  · rw [readOptions_named hg n hversion (by decide), String.ofList_toList,
      takeNamed_information (.inr ⟨htells, rfl⟩)]
    cases given.settle <;> rfl
  · rw [readOptions_lettered hg n hv (by decide), takeLetters_information (.inr ⟨htells, rfl⟩)]
    cases given.settle <;> rfl

/-- Arguments are read to one result, whether they are all there is or a command follows them. -/
def ReadToEnd (g : Grammar) (given : Given) (args : List String) (result : Except Stop Given) :
    Prop :=
  (∀ n, args.length < n → readOptions g n given args = result.map fun given => (given, none)) ∧
    ∀ n command rest, args.length < n → command ∈ g.commands →
      readOptions g n given (args ++ command :: rest) =
        result.map fun given => (given, some (command, rest))

lemma readToEnd_nil (g : Grammar) (given : Given) : ReadToEnd g given [] (.ok given) := by
  constructor
  · intro n hn
    obtain ⟨n, rfl⟩ := Nat.exists_eq_succ_of_ne_zero (Nat.ne_of_gt hn)
    rfl
  · intro n command rest hn hcommand
    obtain ⟨n, rfl⟩ := Nat.exists_eq_succ_of_ne_zero (Nat.ne_of_gt hn)
    have hcontains : g.commands.contains command = true := by simpa using hcommand
    rw [List.nil_append, readOptions, hcontains]
    rfl

/-- What is read alone comes before what is read to the end. -/
lemma ReadAlone.readToEnd {next : Except Stop Given} (hfirst : first ≠ [])
    (halone : ReadAlone g given first next)
    (hargs : ∀ given, ∃ result, ReadToEnd g given args result) :
    ∃ result, ReadToEnd g given (first ++ args) result := by
  have hlength : ∀ n, (first ++ args).length < n → ∃ m, n = m + 1 ∧ args.length < m := by
    intro n hn
    have hpos := List.length_pos_iff.mpr hfirst
    rw [List.length_append] at hn
    -- the step that reads the first arguments leaves enough for the others
    exact ⟨n - 1, by omega, by omega⟩
  cases next with
  | error stop =>
    -- what is wrong with the first arguments ends the reading before a command is seen
    refine ⟨.error stop, fun n hn => ?_, fun n command rest hn _ => ?_⟩
    · obtain ⟨m, rfl, -⟩ := hlength n hn
      rw [halone]
      rfl
    · obtain ⟨m, rfl, -⟩ := hlength n hn
      rw [List.append_assoc, halone]
      rfl
  | ok given =>
    obtain ⟨result, hend, hcommand⟩ := hargs given
    refine ⟨result, fun n hn => ?_, fun n command rest hn hmem => ?_⟩
    · obtain ⟨m, rfl, hm⟩ := hlength n hn
      rw [halone, ← hend m hm]
      rfl
    · obtain ⟨m, rfl, hm⟩ := hlength n hn
      rw [List.append_assoc, halone, ← hcommand m command rest hm hmem]
      rfl

/-- Options are read to one result, whether they are all there is or a command follows them. -/
theorem OptionArgs.exists_readToEnd (ho : OptionArgs g args) (hg : g.Plain) (given : Given) :
    ∃ result, ReadToEnd g given args result := by
  induction ho generalizing given with
  | nil => exact ⟨_, readToEnd_nil g given⟩
  | option known spelled more ih =>
    obtain ⟨next, halone, -⟩ := spelled.readAs hg.clear known (hg.valued _ known) given
    exact halone.readToEnd spelled.ne_nil ih
  | information asks more ih =>
    exact (asks.readAlone hg.clear given).readToEnd (List.cons_ne_nil _ []) ih

end Provisioner.CommandLine
