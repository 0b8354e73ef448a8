import Provisioner.Proofs.CommandLine.Options
import Provisioner.Proofs.Except
import Mathlib.Logic.Basic
/-!
# What a command line gives

`Gives g given args next command` says what arguments mean by the grammar `g`: they add to what was
given before, and a command with further arguments may follow them.  It has one constructor for each
way in which an argument can stand on a command line.  Reading finds exactly this meaning, and fails
where there is none.
-/

namespace Provisioner.CommandLine

variable {g : Grammar} {s : Switch} {value arg : String} {given x next out mid : Given}
  {first args rest rest' : List String} {command : Option (String × List String)}

/-- An option as it stands on a command line; one that takes no value has an empty one. -/
inductive Stands (s : Switch) : String → List String → Prop
  | valued {value : String} {first : List String} (takes : s.takesValue = true)
      (spelled : Spelled s value first) : Stands s value first
  | flag (takes : s.takesValue = false) : Stands s "" ["--" ++ s.name]
  | letter {c : Char} (takes : s.takesValue = false) (letter : s.letter = some c) :
      Stands s "" ["-" ++ String.singleton c]

/-- What arguments add to what was given before them, up to a command. -/
inductive Gives (g : Grammar) :
    Given → List String → Given → Option (String × List String) → Prop
  | nil {given : Given} : Gives g given [] given none
  | command {given : Given} {name : String} {rest : List String} (known : name ∈ g.commands) :
      Gives g given (name :: rest) given (some (name, rest))
  /-- An option that was not given before. -/
  | option {given next : Given} {command : Option (String × List String)} {s : Switch}
      {value : String} {first args : List String} (known : s ∈ g.switches)
      (stands : Stands s value first) (new : given.option? s.name = none)
      (allowed : s.allowsEmpty = true ∨ value ≠ "")
      (more : Gives g { given with options := given.options ++ [(s.name, value)] } args next
        command) : Gives g given (first ++ args) next command
  /-- An argument without a name. -/
  | argument {given next : Given} {command : Option (String × List String)} {arg : String}
      {args : List String} (plain : looksLikeOption arg = false) (other : arg ∉ g.commands)
      (room : given.arguments.length < g.arguments)
      (more : Gives g { given with arguments := given.arguments ++ [arg] } args next command) :
      Gives g given (arg :: args) next command
  /-- Arguments without a name, whatever they look like. -/
  | separated {given : Given} {args : List String}
      (room : args = [] ∨ given.arguments.length + args.length ≤ g.arguments) :
      Gives g given ("--" :: args) { given with arguments := given.arguments ++ args } none

/-! ## One option or argument -/

lemma add_eq_ok_iff :
    given.add s value = .ok next ↔ given.option? s.name = none ∧
      (s.allowsEmpty = true ∨ value ≠ "") ∧
      next = { given with options := given.options ++ [(s.name, value)] } := by
  unfold Given.add Given.option?
  split
  · rename_i hrefused
    constructor
    · exact fun hnext => by cases hnext
    · rintro ⟨hnew, hallowed, -⟩
      rcases hrefused with hgiven | ⟨hempty, rfl⟩
      · rw [hnew] at hgiven
        cases hgiven
      · rcases hallowed with hallowed | hallowed
        · exact absurd hallowed hempty
        · exact absurd rfl hallowed
  · rename_i hfine
    rw [not_or, not_and_or, not_not] at hfine
    obtain ⟨hnew, hallowed⟩ := hfine
    have hnone : given.options.lookup s.name = none := Option.not_isSome_iff_eq_none.mp hnew
    constructor
    · intro hnext
      cases hnext
      exact ⟨hnone, hallowed, rfl⟩
    · rintro ⟨-, -, rfl⟩
      rfl

lemma addArgument_eq_ok_iff :
    given.addArgument g arg = .ok next ↔ given.arguments.length < g.arguments ∧
      next = { given with arguments := given.arguments ++ [arg] } := by
  unfold Given.addArgument
  split
  · rename_i hroom
    constructor
    · intro hnext
      cases hnext
      exact ⟨hroom, rfl⟩
    · rintro ⟨-, rfl⟩
      rfl
  · rename_i hfull
    constructor
    · exact fun hnext => by cases hnext
    · exact fun hnext => absurd hnext.1 hfull

lemma addArguments_eq_ok_iff :
    given.addArguments g args = .ok next ↔
      (args = [] ∨ given.arguments.length + args.length ≤ g.arguments) ∧
      next = { given with arguments := given.arguments ++ args } := by
  induction args generalizing given with
  | nil => simp [Given.addArguments, eq_comm]
  | cons arg args ih =>
    show (given.addArgument g arg).bind _ = _ ↔ _
    rw [bind_eq_ok_iff]
    constructor
    · rintro ⟨mid, hfirst, hmore⟩
      obtain ⟨hroom, rfl⟩ := addArgument_eq_ok_iff.mp hfirst
      obtain ⟨hrooms, rfl⟩ := ih.mp hmore
      refine ⟨.inr ?_, by simp⟩
      rcases hrooms with rfl | hrooms
      · exact hroom
      · simp only [List.length_append, List.length_cons, List.length_nil] at hrooms ⊢
        omega
    · rintro ⟨hroom, rfl⟩
      have hroom : given.arguments.length + (args.length + 1) ≤ g.arguments :=
        hroom.resolve_left (List.cons_ne_nil _ _)
      refine ⟨_, addArgument_eq_ok_iff.mpr ⟨by omega, rfl⟩, ih.mpr ⟨.inr ?_, by simp⟩⟩
      simp only [List.length_append, List.length_cons, List.length_nil]
      omega

/-- What is pending has nothing to do with arguments without a name. -/
lemma settle_arguments (given : Given) (args : List String) :
    ({ given with arguments := args } : Given).settle =
      given.settle.map fun settled => { settled with arguments := args } := by
  obtain ⟨options, pending, arguments⟩ := given
  cases pending with
  | none => rfl
  | some last =>
    unfold Given.settle Given.add
    dsimp only
    split <;> rfl

lemma arguments_of_settle (hsettle : given.settle = .ok x) : x.arguments = given.arguments := by
  have hsame := settle_arguments given given.arguments
  have hgiven : ({ given with arguments := given.arguments } : Given) = given := rfl
  rw [hgiven, hsettle, Except.map] at hsame
  have harguments := Except.ok.inj hsame
  rw [harguments]

/-! ## Options as they are read -/

/-- An option without a value is read by itself. -/
lemma readAs_flag {arg : String} (hs : s.takesValue = false)
    (htakes : ∀ n rest, readOptions g (n + 1) given (arg :: rest) =
      (takeOption given s none rest).bind fun next => readOptions g n next.1 next.2) :
    ReadAs g given [arg] s "" := by
  have htake : ∀ rest, takeOption given s none rest =
      (given.settle.bind fun given => given.add s "").map fun given => (given, rest) := by
    intro rest
    unfold takeOption
    rw [hs]
    cases given.settle <;> rfl
  refine ⟨given.settle.bind fun given => given.add s "", fun n rest => ?_, ?_⟩
  · rw [List.singleton_append, htakes, htake]
    cases given.settle.bind fun given => given.add s "" <;> rfl
  · cases hsettle : given.settle with
    | error stop => rfl
    | ok settled => exact add_settle (pending_of_settle hsettle) s ""

lemma toList_named (name : String) : ("--" ++ name).toList = '-' :: '-' :: name.toList := by
  simp [String.toList_append]

/-- An option is read by itself as what it stands for. -/
lemma Stands.readAs (hstands : Stands s value first) (hg : g.Clear) (hs : s ∈ g.switches)
    (given : Given) : ReadAs g given first s value := by
  cases hstands with
  | valued takes spelled => exact spelled.readAs hg hs takes given
  | flag takes =>
    have hname : s.name.toList ≠ [] := by
      simpa using (hg.named s hs).1
    refine readAs_flag takes fun n rest => ?_
    rw [readOptions_named hg n (toList_named s.name) hname, String.ofList_toList,
      takeNamed_apart hg hs]
  | @letter c takes letter =>
    have harg : ("-" ++ String.singleton c).toList = ['-', c] := by
      simp
    refine readAs_flag takes fun n rest => ?_
    rw [readOptions_lettered hg n harg (hg.lettered s hs c letter).1, takeLetters_eq hg hs letter,
      attachedTo]

lemma Stands.ne_nil (hstands : Stands s value first) : first ≠ [] := by
  cases hstands with
  | valued takes spelled => exact spelled.ne_nil
  | flag | letter => exact List.cons_ne_nil _ _

lemma looksLikeOption_of_toList {c : Char} {text : List Char} (harg : arg.toList = '-' :: c :: text) :
    looksLikeOption arg = true := by
  have hne : arg ≠ "-" := by
    rintro rfl
    cases harg
  simp [looksLikeOption, Text.startsWith, harg, hne]

/-- An argument that is no command and does not look like an option has no name. -/
lemma readOptions_argument (plain : looksLikeOption arg = false) (other : arg ∉ g.commands)
    (n : Nat) :
    readOptions g (n + 1) given (arg :: rest) =
      (given.addArgument g arg).bind fun given => readOptions g n given rest := by
  have hcommand : g.commands.contains arg = false := by simpa using other
  have hlooks : ∀ c text, arg.toList ≠ '-' :: c :: text := by
    intro c text harg
    rw [looksLikeOption_of_toList harg] at plain
    cases plain
  rw [readOptions, hcommand, if_neg (by simp)]
  split
  · rename_i heq
    exact absurd heq (hlooks _ _)
  · rename_i heq
    exact absurd heq (hlooks _ _)
  · rename_i heq
    exact absurd heq (hlooks _ _)
  · rfl

lemma readOptions_separator (hg : g.Clear) (n : Nat) :
    readOptions g (n + 1) given ("--" :: rest) =
      (given.addArguments g rest).bind fun given => .ok (given, none) := by
  have hseparator : "--".toList = '-' :: ['-'] := rfl
  rw [readOptions, not_isCommand hg hseparator]
  rfl

/-! ## Reading finds the meaning -/

/-- What has a meaning is read, whatever is pending before it. -/
lemma Gives.readOptions (hgives : Gives g x args out command) (hg : g.Clear) :
    ∀ n given, args.length < n → given.settle = .ok x →
      ∃ next, readOptions g n given args = .ok (next, command) ∧ next.settle = .ok out := by
  -- By the meaning: settling what is pending gives what was given so far, at every step.
  induction hgives with
  | nil =>
    intro n given hn hsettle
    obtain ⟨n, rfl⟩ := Nat.exists_eq_succ_of_ne_zero (Nat.ne_of_gt hn)
    exact ⟨given, rfl, hsettle⟩
  | command known =>
    intro n given hn hsettle
    obtain ⟨n, rfl⟩ := Nat.exists_eq_succ_of_ne_zero (Nat.ne_of_gt (Nat.zero_lt_of_lt hn))
    rename_i name rest
    have hcontains : g.commands.contains name = true := by simpa using known
    refine ⟨given, ?_, hsettle⟩
    rw [CommandLine.readOptions, hcontains]
    rfl
  | option known stands new allowed more ih =>
    intro n given hn hsettle
    obtain ⟨next, halone, hnext⟩ := stands.readAs hg known given
    rw [hsettle] at hnext
    have hadd := hnext.trans (add_eq_ok_iff.mpr ⟨new, allowed, rfl⟩)
    have hpos := List.length_pos_iff.mpr stands.ne_nil
    rw [List.length_append] at hn
    obtain ⟨n, rfl⟩ := Nat.exists_eq_succ_of_ne_zero (Nat.ne_of_gt (Nat.zero_lt_of_lt hn))
    cases next with
    | error stop => cases hadd
    | ok mid =>
      rw [halone]
      exact ih n mid (by omega) hadd
  | argument plain other room more ih =>
    intro n given hn hsettle
    obtain ⟨n, rfl⟩ := Nat.exists_eq_succ_of_ne_zero (Nat.ne_of_gt (Nat.zero_lt_of_lt hn))
    have hroom := arguments_of_settle hsettle ▸ room
    rw [readOptions_argument plain other, addArgument_eq_ok_iff.mpr ⟨hroom, rfl⟩]
    refine ih n _ (by simpa using hn) ?_
    rw [settle_arguments, hsettle, ← arguments_of_settle hsettle]
    rfl
  | separated room =>
    intro n given hn hsettle
    obtain ⟨n, rfl⟩ := Nat.exists_eq_succ_of_ne_zero (Nat.ne_of_gt (Nat.zero_lt_of_lt hn))
    have hroom := arguments_of_settle hsettle ▸ room
    rw [readOptions_separator hg, addArguments_eq_ok_iff.mpr ⟨hroom, rfl⟩]
    refine ⟨_, rfl, ?_⟩
    rw [settle_arguments, hsettle, ← arguments_of_settle hsettle]
    rfl

/-! ## What is read has a meaning -/

/-- An option that is taken leaves nothing to settle. -/
lemma settle_of_add (hsettle : given.settle = .ok x) (hadd : x.add s value = .ok mid) :
    mid.settle = x.add s value := by
  have hsettled := add_settle (pending_of_settle hsettle) s value
  rw [hadd] at hsettled ⊢
  exact hsettled

/-- What taking an option comes to. -/
lemma takeOption_eq_ok {attached : Option String}
    (hok : takeOption given s attached rest = .ok (mid, rest')) :
    ∃ x value, given.settle = .ok x ∧ mid.settle = x.add s value ∧
      ((s.takesValue = false ∧ attached = none ∧ value = "" ∧ rest = rest') ∨
        (s.takesValue = true ∧ attached = some value ∧ rest = rest') ∨
        (s.takesValue = true ∧ attached = none ∧ looksLikeOption value = false ∧
          rest = value :: rest')) := by
  unfold takeOption at hok
  obtain ⟨x, hsettle, htaken⟩ := bind_eq_ok_iff.mp hok
  clear hok
  split at htaken
  · rename_i takes
    obtain ⟨given, hadd, htaken⟩ := bind_eq_ok_iff.mp htaken
    cases htaken
    exact ⟨x, "", hsettle, settle_of_add hsettle hadd, .inl ⟨takes, rfl, rfl, rfl⟩⟩
  · cases htaken
  · rename_i value takes
    obtain ⟨given, hadd, htaken⟩ := bind_eq_ok_iff.mp htaken
    cases htaken
    exact ⟨x, value, hsettle, settle_of_add hsettle hadd, .inr (.inl ⟨takes, rfl, rfl⟩)⟩
  · rename_i value rest takes
    split at htaken
    · cases htaken
    · rename_i hplain
      cases htaken
      refine ⟨x, value, hsettle, ?_, .inr (.inr ⟨takes, rfl, by simpa using hplain, rfl⟩)⟩
      -- The value is pending, and settling takes it.
      have hpending := pending_of_settle hsettle
      obtain ⟨options, pending, arguments⟩ := x
      subst hpending
      rfl
  · cases htaken

/-- What is cut at an equals sign has one. -/
lemma eq_append_of_cutFirst {text name : String} (hcut : Text.cutFirst '=' text = some (name, value)) :
    text = name ++ "=" ++ value := by
  obtain ⟨⟨left, right⟩, hsplit, hparts⟩ := Option.map_eq_some_iff.mp hcut
  obtain ⟨rfl, rfl⟩ := Prod.mk.inj hparts
  have htext := (Text.splitFirst_eq_some hsplit).1
  rw [← String.toList_inj]
  simpa [String.toList_append] using htext

/-- An option that is found by its name has it. -/
lemma named_of_find? {name : String} (hs : (g.switches.find? fun s => s.name == name) = some s) :
    s ∈ g.switches ∧ s.name = name :=
  ⟨List.mem_of_find?_eq_some hs, by simpa using List.find?_some hs⟩

/-- An option that is taken by its name. -/
lemma takeNamed_eq_ok {text : String} (hok : takeNamed g given text rest = .ok (mid, rest')) :
    ∃ s attached, s ∈ g.switches ∧ takeOption given s attached rest = .ok (mid, rest') ∧
      ((attached = none ∧ text = s.name) ∨
        ∃ value, attached = some value ∧ text = s.name ++ "=" ++ value) := by
  unfold takeNamed at hok
  cases hcut : Text.cutFirst '=' text with
  | none =>
    rw [hcut] at hok
    dsimp only at hok
    split at hok
    · obtain ⟨settled, -, hstop⟩ := bind_eq_ok_iff.mp hok
      cases hstop
    · cases hs : g.switches.find? fun s => s.name == text with
      | none =>
        rw [hs] at hok
        cases hok
      | some s =>
        rw [hs] at hok
        obtain ⟨hmem, hname⟩ := named_of_find? hs
        exact ⟨s, none, hmem, hok, .inl ⟨rfl, hname.symm⟩⟩
  | some parts =>
    obtain ⟨name, value⟩ := parts
    rw [hcut] at hok
    dsimp only at hok
    split at hok
    · obtain ⟨settled, -, hstop⟩ := bind_eq_ok_iff.mp hok
      cases hstop
    · cases hs : g.switches.find? fun s => s.name == name with
      | none =>
        rw [hs] at hok
        cases hok
      | some s =>
        rw [hs] at hok
        obtain ⟨hmem, rfl⟩ := named_of_find? hs
        exact ⟨s, some value, hmem, hok, .inr ⟨value, rfl, eq_append_of_cutFirst hcut⟩⟩

/-- An option that is taken by its letter. -/
lemma takeLetters_eq_ok {c : Char} {text : List Char}
    (hok : takeLetters g given (c :: text) rest = .ok (mid, rest')) :
    ∃ s ∈ g.switches, s.letter = some c ∧
      takeOption given s (attachedTo text) rest = .ok (mid, rest') := by
  unfold takeLetters at hok
  dsimp only at hok
  split at hok
  · obtain ⟨settled, -, hstop⟩ := bind_eq_ok_iff.mp hok
    cases hstop
  · cases hs : g.switches.find? fun s => s.letter == some c with
    | none =>
      rw [hs] at hok
      cases hok
    | some s =>
      rw [hs] at hok
      exact ⟨s, List.mem_of_find?_eq_some hs, by simpa using List.find?_some hs, hok⟩

/-- The first arguments are an option that is taken. -/
def TakesOption (g : Grammar) (given : Given) (args : List String) (mid : Given)
    (rest' : List String) : Prop :=
  ∃ s value first x, s ∈ g.switches ∧ Stands s value first ∧ args = first ++ rest' ∧
    given.settle = .ok x ∧ mid.settle = x.add s value

lemma takesOption_of_takeNamed {text : List Char} (harg : arg.toList = '-' :: '-' :: text)
    (hok : takeNamed g given (String.ofList text) rest = .ok (mid, rest')) :
    TakesOption g given (arg :: rest) mid rest' := by
  obtain ⟨s, attached, hs, htake, hattached⟩ := takeNamed_eq_ok hok
  obtain ⟨x, value, hsettle, hmid, hkind⟩ := takeOption_eq_ok htake
  have hnamed : ∀ name, String.ofList text = name → arg = "--" ++ name := by
    rintro name rfl
    rw [← String.toList_inj, harg, toList_named, String.toList_ofList]
  rcases hattached with ⟨rfl, htext⟩ | ⟨given', rfl, htext⟩
  · obtain rfl := hnamed _ htext
    rcases hkind with ⟨takes, -, rfl, rfl⟩ | ⟨-, hsome, -⟩ | ⟨takes, -, plain, rfl⟩
    · exact ⟨s, "", _, x, hs, .flag takes, rfl, hsettle, hmid⟩
    · cases hsome
    · exact ⟨s, value, _, x, hs, .valued takes (.apart plain), rfl, hsettle, hmid⟩
  · have harg := hnamed _ htext
    rw [← String.append_assoc, ← String.append_assoc] at harg
    subst harg
    rcases hkind with ⟨-, hnone, -⟩ | ⟨takes, hsome, rfl⟩ | ⟨-, hnone, -⟩
    · cases hnone
    · cases hsome
      exact ⟨s, value, _, x, hs, .valued takes .attached, rfl, hsettle, hmid⟩
    · cases hnone

/-- The value after a letter is what follows an equals sign, or the whole text. -/
lemma attachedTo_cases (text : List Char) :
    (text = [] ∧ attachedTo text = none) ∨
      (∃ value : String, text = '=' :: value.toList ∧ attachedTo text = some value) ∨
      ∃ value : String, text = value.toList ∧ value ≠ "" ∧ value.toList.head? ≠ some '=' ∧
        attachedTo text = some value := by
  rcases text with _ | ⟨d, text⟩
  · exact .inl ⟨rfl, rfl⟩
  · by_cases hd : d = '='
    · subst hd
      exact .inr (.inl ⟨String.ofList text, by rw [String.toList_ofList], rfl⟩)
    · have hhead : (d :: text).head? ≠ some '=' := by
        rw [List.head?_cons]
        exact fun h => hd (Option.some.inj h)
      refine .inr (.inr ⟨String.ofList (d :: text), by rw [String.toList_ofList], ?_, ?_, ?_⟩)
      · intro hempty
        have hnil := congrArg String.toList hempty
        rw [String.toList_ofList] at hnil
        cases hnil
      · rw [String.toList_ofList]
        exact hhead
      · exact attachedTo_eq_some (List.cons_ne_nil _ _) hhead

lemma takesOption_of_takeLetters {c : Char} {text : List Char} (harg : arg.toList = '-' :: c :: text)
    (hok : takeLetters g given (c :: text) rest = .ok (mid, rest')) :
    TakesOption g given (arg :: rest) mid rest' := by
  obtain ⟨s, hs, hletter, htake⟩ := takeLetters_eq_ok hok
  obtain ⟨x, value, hsettle, hmid, hkind⟩ := takeOption_eq_ok htake
  rcases attachedTo_cases text with ⟨rfl, hattached⟩ | ⟨attached, rfl, hattached⟩ |
    ⟨attached, rfl, nonempty, unequal, hattached⟩ <;> rw [hattached] at hkind
  · obtain rfl : arg = "-" ++ String.singleton c := by
      rw [← String.toList_inj, harg]
      simp
    rcases hkind with ⟨takes, -, rfl, rfl⟩ | ⟨-, hsome, -⟩ | ⟨takes, -, plain, rfl⟩
    · exact ⟨s, "", _, x, hs, .letter takes hletter, rfl, hsettle, hmid⟩
    · cases hsome
    · exact ⟨s, value, _, x, hs, .valued takes (.letterApart hletter plain), rfl, hsettle, hmid⟩
  · obtain rfl : arg = "-" ++ String.singleton c ++ "=" ++ attached := by
      rw [← String.toList_inj, harg]
      simp
    rcases hkind with ⟨-, hnone, -⟩ | ⟨takes, hsome, rfl⟩ | ⟨-, hnone, -⟩
    · cases hnone
    · cases hsome
      exact ⟨s, _, _, x, hs, .valued takes (.letterEquals hletter), rfl, hsettle, hmid⟩
    · cases hnone
  · obtain rfl : arg = "-" ++ String.singleton c ++ attached := by
      rw [← String.toList_inj, harg]
      simp
    rcases hkind with ⟨-, hnone, -⟩ | ⟨takes, hsome, rfl⟩ | ⟨-, hnone, -⟩
    · cases hnone
    · cases hsome
      exact ⟨s, _, _, x, hs, .valued takes (.letterAttached hletter nonempty unequal), rfl, hsettle,
        hmid⟩
    · cases hnone

lemma toList_of_looksLikeOption (hlooks : looksLikeOption arg = true) :
    ∃ c text, arg.toList = '-' :: c :: text := by
  unfold looksLikeOption Text.startsWith at hlooks
  rw [Bool.and_eq_true, bne_iff_ne] at hlooks
  obtain ⟨hstarts, hne⟩ := hlooks
  rcases harg : arg.toList with _ | ⟨d, _ | ⟨c, text⟩⟩
  · rw [harg] at hstarts
    cases hstarts
  · rw [harg] at hstarts
    have hd : '-' = d := by simpa using hstarts.symm
    refine absurd ?_ hne
    rw [← String.toList_inj, harg, ← hd]
    rfl
  · rw [harg] at hstarts
    have hd : '-' = d := by simpa using hstarts.symm
    exact ⟨c, text, by rw [hd]⟩

lemma TakesOption.length_lt (htakes : TakesOption g given args mid rest') :
    rest'.length < args.length := by
  obtain ⟨s, value, first, x, -, hstands, rfl, -, -⟩ := htakes
  have hpos := List.length_pos_iff.mpr hstands.ne_nil
  rw [List.length_append]
  omega

/-- What the first argument is read as, and what reading goes on with. -/
inductive ReadsFirst (g : Grammar) (n : Nat) (given : Given) (arg : String) (rest : List String)
    (next : Given) : Option (String × List String) → Prop
  | command (known : arg ∈ g.commands) (same : next = given) :
      ReadsFirst g n given arg rest next (some (arg, rest))
  | argument {mid : Given} {command : Option (String × List String)}
      (plain : looksLikeOption arg = false) (other : arg ∉ g.commands)
      (added : given.addArgument g arg = .ok mid)
      (more : CommandLine.readOptions g n mid rest = .ok (next, command)) :
      ReadsFirst g n given arg rest next command
  | separator (separator : arg = "--") (added : given.addArguments g rest = .ok next) :
      ReadsFirst g n given arg rest next none
  | option {mid : Given} {rest' : List String} {command : Option (String × List String)}
      (taken : TakesOption g given (arg :: rest) mid rest')
      (more : CommandLine.readOptions g n mid rest' = .ok (next, command)) :
      ReadsFirst g n given arg rest next command

/-- What looks like an option is one, or the separator. -/
lemma readsFirst_of_looksLikeOption (hg : g.Clear) {n : Nat} (hlooks : looksLikeOption arg = true)
    (hread : CommandLine.readOptions g (n + 1) given (arg :: rest) = .ok (next, command)) :
    ReadsFirst g n given arg rest next command := by
  obtain ⟨c, text, harg⟩ := toList_of_looksLikeOption hlooks
  by_cases hc : c = '-'
  · subst hc
    by_cases htext : text = []
    · subst htext
      obtain rfl : arg = "--" := by
        rw [← String.toList_inj, harg]
        rfl
      rw [readOptions_separator hg] at hread
      obtain ⟨given, hadded, hread⟩ := bind_eq_ok_iff.mp hread
      cases hread
      exact .separator rfl hadded
    · rw [readOptions_named hg n harg htext] at hread
      obtain ⟨taken, htaken, hread⟩ := bind_eq_ok_iff.mp hread
      exact .option (takesOption_of_takeNamed harg htaken) hread
  · rw [readOptions_lettered hg n harg hc] at hread
    obtain ⟨taken, htaken, hread⟩ := bind_eq_ok_iff.mp hread
    exact .option (takesOption_of_takeLetters harg htaken) hread

/-- Reading arguments is reading the first one and going on. -/
lemma readsFirst_of_readOptions (hg : g.Clear) {n : Nat}
    (hread : CommandLine.readOptions g (n + 1) given (arg :: rest) = .ok (next, command)) :
    ReadsFirst g n given arg rest next command := by
  by_cases hcommand : arg ∈ g.commands
  · have hcontains : g.commands.contains arg = true := by simpa using hcommand
    rw [CommandLine.readOptions, hcontains] at hread
    cases hread
    exact .command hcommand rfl
  · cases hlooks : looksLikeOption arg with
    | true => exact readsFirst_of_looksLikeOption hg hlooks hread
    | false =>
      rw [readOptions_argument hlooks hcommand] at hread
      obtain ⟨given, hadded, hread⟩ := bind_eq_ok_iff.mp hread
      exact .argument hlooks hcommand hadded hread

/-- Arguments without a name are settled beside what is pending. -/
lemma exists_of_settle_append
    (hsettle : ({ given with arguments := given.arguments ++ args } : Given).settle = .ok out) :
    ∃ x, given.settle = .ok x ∧ x.arguments = given.arguments ∧
      out = { x with arguments := x.arguments ++ args } := by
  rw [settle_arguments] at hsettle
  obtain ⟨x, hx, rfl⟩ := map_eq_ok_iff.mp hsettle
  have harguments := arguments_of_settle hx
  exact ⟨x, hx, harguments, by rw [harguments]⟩

/-- What is read has a meaning, once what was pending before it is settled. -/
lemma exists_gives (hg : g.Clear) (n : Nat) :
    ∀ given args, args.length < n → CommandLine.readOptions g n given args = .ok (next, command) →
      next.settle = .ok out → ∃ x, given.settle = .ok x ∧ Gives g x args out command := by
  induction n with
  | zero => exact fun given args hn => absurd hn (Nat.not_lt_zero _)
  | succ n ih =>
    intro given args hn hread hsettle
    cases args with
    | nil =>
      cases hread
      exact ⟨out, hsettle, .nil⟩
    | cons arg rest =>
      cases readsFirst_of_readOptions hg hread with
      | command known same =>
        subst same
        exact ⟨out, hsettle, .command known⟩
      | argument plain other added more =>
        obtain ⟨hroom, rfl⟩ := addArgument_eq_ok_iff.mp added
        obtain ⟨y, hy, hgives⟩ := ih _ rest (by simpa using hn) more hsettle
        obtain ⟨x, hx, harguments, rfl⟩ := exists_of_settle_append hy
        exact ⟨x, hx, .argument plain other (harguments ▸ hroom) hgives⟩
      | separator separator added =>
        obtain ⟨hroom, rfl⟩ := addArguments_eq_ok_iff.mp added
        obtain ⟨x, hx, harguments, rfl⟩ := exists_of_settle_append hsettle
        rw [separator]
        exact ⟨x, hx, .separated (harguments ▸ hroom)⟩
      | option taken more =>
        -- An option may take two arguments, so the rest is shorter by one or by two.
        have hrest := taken.length_lt
        obtain ⟨y, hy, hgives⟩ := ih _ _ (by omega) more hsettle
        obtain ⟨s, value, first, x, hs, hstands, hargs, hx, hmid⟩ := taken
        -- What was checked when the option was settled holds of it where it stands.
        obtain ⟨hnew, hallowed, rfl⟩ := add_eq_ok_iff.mp (hmid.symm.trans hy)
        rw [hargs]
        exact ⟨x, hx, .option hs hstands hnew hallowed hgives⟩

/-- **Reading finds exactly what a command line gives.** -/
theorem readOptions_eq_ok_iff (hg : g.Clear) :
    (∃ next, CommandLine.readOptions g (args.length + 1) {} args = .ok (next, command) ∧
      next.settle = .ok out) ↔ Gives g {} args out command := by
  constructor
  · rintro ⟨next, hread, hsettle⟩
    obtain ⟨x, hx, hgives⟩ := exists_gives hg _ _ _ (Nat.lt_succ_self _) hread hsettle
    cases hx
    exact hgives
  · exact fun hgives => hgives.readOptions hg _ _ (Nat.lt_succ_self _) rfl

end Provisioner.CommandLine
