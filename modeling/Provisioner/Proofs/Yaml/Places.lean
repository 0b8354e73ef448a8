import Mathlib
import Provisioner.Proofs.Json.Records
import Provisioner.Proofs.Manifest.Documents
import Provisioner.Proofs.Yaml.Keys
/-!
# What stands where in the JSON of a value

A path leads to a part of a value and to the JSON of that part: to an item by its position, and to
the value of an entry by the text of its key, where the last entry of a text counts.  `Kept` says
what becomes of one part: a sequence keeps its items, the entries of a mapping are merged by the
texts of their keys, and only a null, or a real that has no finite double, becomes null.
-/

namespace Provisioner

namespace Yaml

/-! ## Paths -/

/-- A step from a collection into one of its parts. -/
inductive Step where
  /-- To the item at a position. -/
  | item (position : Nat)
  /-- To what stands under a text. -/
  | entry (text : String)

/-- The value of the last entry whose key has a text. -/
def lastUnder? (text : String) : List (Value × Value) → Option Value
  | [] => none
  | (key, value) :: rest =>
    match lastUnder? text rest with
    | some later => some later
    | none => if key.keyText = .ok text then some value else none

/-- The part of a value to which a path leads. -/
def Value.follow? : List Step → Value → Option Value
  | [], value => some value
  | .item i :: path, .sequence items => items[i]?.bind (follow? path)
  | .entry text :: path, .mapping entries => (lastUnder? text entries).bind (follow? path)
  | _ :: _, _ => none

end Yaml

/-- The part of a JSON value to which a path leads. -/
def Json.follow? : List Yaml.Step → Json → Option Json
  | [], json => some json
  | .item i :: path, .array items => items[i]?.bind (follow? path)
  | .entry name :: path, .object members => (Members.find? name members).bind (follow? path)
  | _ :: _, _ => none

namespace Yaml

/-! ## What becomes of a part -/

/-- The types of values. -/
inductive Kind where
  | null
  | bool
  | int
  | real
  | string
  | sequence
  | mapping
  | alias
  | bad
deriving DecidableEq

/-- The type of a value. -/
def Value.kind : Value → Kind
  | .null => .null
  | .bool _ => .bool
  | .int _ => .int
  | .real _ => .real
  | .string _ => .string
  | .sequence _ => .sequence
  | .mapping _ => .mapping
  | .alias _ => .alias
  | .bad => .bad

/-- No two keys of the entries have the same text. -/
def DistinctTexts (entries : List (Value × Value)) : Prop :=
  entries.Pairwise fun a b => a.1.keyText ≠ b.1.keyText

/-- The members of an object are the entries of a mapping, merged by the texts of their keys. -/
structure Merges (entries : List (Value × Value)) (members : Json.Members) : Prop where
  /-- No name is given twice. -/
  nodup : (members.map Prod.fst).Nodup
  /-- Under a name stands the JSON of the last entry whose key has that text, and nothing else. -/
  mem_iff : ∀ name json, (name, json) ∈ members ↔
    ∃ value, lastUnder? name entries = some value ∧ value.toJson = .ok json
  /-- There are as many members as entries, unless two keys have the same text. -/
  length_iff : members.length = entries.length ↔ DistinctTexts entries
  /-- Then the JSON of each entry's value stands under the text of its key. -/
  present : DistinctTexts entries → ∀ key value, (key, value) ∈ entries →
    ∃ name json, key.keyText = .ok name ∧ value.toJson = .ok json ∧ (name, json) ∈ members
  /-- Two keys of the same text are of different types. -/
  kinds : entries.Pairwise fun a b =>
    ∀ text, a.1.keyText = .ok text → b.1.keyText = .ok text → a.1.kind ≠ b.1.kind

/-- What becomes of one part of a value. -/
structure Kept (value : Value) (json : Json) : Prop where
  converted : value.toJson = .ok json
  /-- A sequence becomes an array of the JSON of its items, in order. -/
  sequence : ∀ items, value = .sequence items →
    ∃ parts, json = .array parts ∧ List.Forall₂ (fun item part => item.toJson = .ok part) items parts
  /-- A mapping becomes an object of its entries. -/
  mapping : ∀ entries, value = .mapping entries →
    ∃ members, json = .object members ∧ Merges entries members
  /-- Null means null, or a real that has no finite double. -/
  null : json = .null → value = .null ∨ ∃ text, value = .real text ∧ double? text.toList = some none

variable {value : Value} {json : Json} {items : List Value} {parts : List Json}
  {entries : List (Value × Value)} {members : Json.Members} {text name : String}

/-! ## Texts of keys -/

/-- Keys of one type that have the same text are the same. -/
lemma eq_of_keyText_eq {a b : Value} (ha : a.keyText = .ok text) (hb : b.keyText = .ok text)
    (hkind : a.kind = b.kind) : a = b := by
  cases a <;> cases b <;> cases hkind
  case null.null => rfl
  case bool.bool x y =>
    cases x <;> cases y
    case false.false | true.true => rfl
    all_goals exact absurd (Except.ok.inj (ha.trans hb.symm)) (by decide)
  case int.int m n =>
    have htext : m.repr = n.repr := Except.ok.inj (ha.trans hb.symm)
    rw [Int.repr_injective htext]
  case real.real =>
    cases ha
    cases hb
    rfl
  case string.string =>
    cases ha
    cases hb
    rfl
  all_goals cases ha

lemma lastUnder?_eq_none (habsent : ∀ entry ∈ entries, entry.1.keyText ≠ .ok text) :
    lastUnder? text entries = none := by
  induction entries with
  | nil => rfl
  | cons entry rest ih =>
    obtain ⟨key, value⟩ := entry
    obtain ⟨hkey, hrest⟩ := List.forall_mem_cons.mp habsent
    rw [lastUnder?, ih hrest]
    exact if_neg hkey

/-- Where no two keys have the same text, each entry is the last of its text. -/
lemma lastUnder?_of_mem (hdistinct : DistinctTexts entries) {key : Value}
    (hmem : (key, value) ∈ entries) (hkey : key.keyText = .ok text) :
    lastUnder? text entries = some value := by
  induction entries with
  | nil => cases hmem
  | cons entry rest ih =>
    obtain ⟨hfirst, hrest⟩ := List.pairwise_cons.mp hdistinct
    rcases List.mem_cons.mp hmem with rfl | hmem
    · have habsent : lastUnder? text rest = none :=
        lastUnder?_eq_none fun other hother heq => hfirst other hother (hkey.trans heq.symm)
      rw [lastUnder?, habsent]
      exact if_pos hkey
    · rw [lastUnder?, ih hrest hmem]

/-! ## Items and entries -/

/-- The member that an entry becomes. -/
def Becomes (entry : Value × Value) (member : String × Json) : Prop :=
  entry.1.keyText = .ok member.1 ∧ entry.2.toJson = .ok member.2

lemma forall₂_of_itemsToJson (hread : Value.itemsToJson items = .ok parts) :
    List.Forall₂ (fun item part => item.toJson = .ok part) items parts := by
  induction items generalizing parts with
  | nil =>
    cases hread
    exact .nil
  | cons item rest ih =>
    rw [Value.itemsToJson] at hread
    obtain ⟨first, hfirst, hthen⟩ := bind_eq_ok_iff.mp hread
    obtain ⟨later, hlater, hend⟩ := bind_eq_ok_iff.mp hthen
    cases hend
    exact .cons hfirst (ih hlater)

lemma forall₂_of_entriesToJson (hread : Value.entriesToJson entries = .ok members) :
    List.Forall₂ Becomes entries members := by
  induction entries generalizing members with
  | nil =>
    cases hread
    exact .nil
  | cons entry rest ih =>
    obtain ⟨key, value⟩ := entry
    rw [Value.entriesToJson] at hread
    obtain ⟨name, hname, hthen⟩ := bind_eq_ok_iff.mp hread
    obtain ⟨first, hfirst, hthen⟩ := bind_eq_ok_iff.mp hthen
    obtain ⟨later, hlater, hend⟩ := bind_eq_ok_iff.mp hthen
    cases hend
    exact .cons ⟨hname, hfirst⟩ (ih hlater)

/-- The last entry of a text becomes the member of that name that counts. -/
lemma rel_lastUnder? (hall : List.Forall₂ Becomes entries members) (text : String) :
    Option.Rel (fun value json => value.toJson = .ok json) (lastUnder? text entries)
      (Json.Members.find? text members) := by
  induction hall with
  | nil => exact .none
  | @cons entry member rest later hfirst hrest ih =>
    obtain ⟨key, value⟩ := entry
    obtain ⟨name, json⟩ := member
    obtain ⟨hkey, hvalue⟩ := hfirst
    dsimp only at hkey hvalue
    rw [lastUnder?, Json.Members.find?]
    generalize lastUnder? text rest = last at ih
    generalize Json.Members.find? text later = found at ih
    cases ih with
    | some hlast => exact .some hlast
    | none =>
      rw [hkey]
      by_cases hname : name = text
      · subst hname
        simpa using hvalue
      · simp [hname]

lemma rel_getElem? (hall : List.Forall₂ (fun item part => item.toJson = .ok part) items parts)
    (i : Nat) :
    Option.Rel (fun item part => item.toJson = .ok part) items[i]? parts[i]? := by
  induction hall generalizing i with
  | nil => exact .none
  | cons hfirst hrest ih =>
    cases i with
    | zero => exact .some hfirst
    | succ i => simpa using ih i

/-- As many members are left as there are names, so all of them when no name comes twice. -/
lemma length_sort_iff (members : Json.Members) :
    members.sort.length = members.length ↔ (members.map Prod.fst).Nodup := by
  -- what is left are the names that are given, each of them once
  have hperm : (members.sort.map Prod.fst).Perm (members.map Prod.fst).dedup := by
    rw [List.perm_ext_iff_of_nodup (Json.Members.rising_sort members).nodup (List.nodup_dedup _)]
    intro name
    rw [List.mem_dedup, Json.Members.mem_names_iff, Json.Members.mem_names_iff,
      Json.Members.find?_sort]
  have hlength : members.sort.length = (members.map Prod.fst).dedup.length := by
    rw [← hperm.length_eq, List.length_map]
  rw [hlength, ← List.dedup_eq_self]
  constructor
  · intro h
    exact (List.dedup_sublist _).eq_of_length (by rw [h, List.length_map])
  · intro h
    rw [h, List.length_map]

lemma distinctTexts_iff (hall : List.Forall₂ Becomes entries members) :
    DistinctTexts entries ↔ (members.map Prod.fst).Nodup := by
  have htexts : entries.map (fun entry => entry.1.keyText) =
      (members.map Prod.fst).map Except.ok := by
    induction hall with
    | nil => rfl
    | cons hfirst hrest ih => rw [List.map_cons, ih, hfirst.1]; rfl
  have hinjective : Function.Injective (Except.ok : String → Except ConversionError String) :=
    fun a b heq => Except.ok.inj heq
  rw [← List.nodup_map_iff hinjective, ← htexts]
  exact List.pairwise_map.symm

lemma exists_becomes (hall : List.Forall₂ Becomes entries members) {entry : Value × Value}
    (hentry : entry ∈ entries) : ∃ member, Becomes entry member := by
  induction hall with
  | nil => cases hentry
  | cons hfirst hrest ih =>
    rcases List.mem_cons.mp hentry with rfl | hentry
    · exact ⟨_, hfirst⟩
    · exact ih hentry

/-- The entries of a mapping are merged in its object. -/
lemma merges_sort (hread : Value.entriesToJson entries = .ok members)
    (hkeys : entries.Pairwise fun a b => a.1 ≠ b.1) : Merges entries members.sort := by
  have hall := forall₂_of_entriesToJson hread
  have hrising := Json.Members.rising_sort members
  have hmem : ∀ name json, (name, json) ∈ members.sort ↔
      ∃ value, lastUnder? name entries = some value ∧ value.toJson = .ok json := by
    intro name json
    rw [hrising.mem_iff, Json.Members.find?_sort]
    have hrel := rel_lastUnder? hall name
    generalize lastUnder? name entries = last at hrel
    generalize Json.Members.find? name members = found at hrel
    cases hrel with
    | none => simp
    | some hlast => simp [hlast, eq_comm]
  refine ⟨hrising.nodup, hmem, ?_, ?_, ?_⟩
  · rw [distinctTexts_iff hall, hall.length_eq, length_sort_iff]
  · intro hdistinct key value hentry
    obtain ⟨⟨name, json⟩, hkey, hvalue⟩ := exists_becomes hall hentry
    exact ⟨name, json, hkey, hvalue,
      (hmem name json).mpr ⟨value, lastUnder?_of_mem hdistinct hentry hkey, hvalue⟩⟩
  · exact hkeys.imp fun hne text ha hb hkind => hne (eq_of_keyText_eq ha hb hkind)

/-! ## Parts -/

/-- A path leads to a part of a value exactly when it leads to a part of its JSON, and that is the
JSON of the part. -/
lemma rel_follow? (hread : value.toJson = .ok json) (path : List Step) :
    Option.Rel (fun part json => part.toJson = .ok json) (value.follow? path)
      (json.follow? path) := by
  induction path generalizing value json with
  | nil => exact .some hread
  | cons step path ih =>
    cases value with
    | sequence items =>
      obtain ⟨parts, hparts, hend⟩ := bind_eq_ok_iff.mp hread
      cases hend
      cases step with
      | item i =>
        -- the item and its JSON are both there or both missing, and the rest of the path follows
        have hrel := rel_getElem? (forall₂_of_itemsToJson hparts) i
        rw [Value.follow?, Json.follow?]
        generalize items[i]? = item at hrel
        generalize parts[i]? = part at hrel
        cases hrel with
        | none => exact .none
        | some hitem => exact ih hitem
      | entry text => exact .none
    | mapping entries =>
      obtain ⟨members, hmembers, hend⟩ := bind_eq_ok_iff.mp hread
      cases hend
      cases step with
      | item i => exact .none
      | entry text =>
        have hrel := rel_lastUnder? (forall₂_of_entriesToJson hmembers) text
        rw [Value.follow?, Json.ofMembers, Json.follow?, Json.Members.find?_sort]
        generalize lastUnder? text entries = last at hrel
        generalize Json.Members.find? text members = found at hrel
        cases hrel with
        | none => exact .none
        | some hlast => exact ih hlast
    | real text =>
      obtain ⟨value, -, rfl⟩ | ⟨-, rfl⟩ := realToJson_eq_ok_iff.mp hread <;>
        cases step <;> exact .none
    | _ => cases hread <;> cases step <;> exact .none

lemma mem_of_lastUnder? (hlast : lastUnder? text entries = some value) :
    ∃ key, (key, value) ∈ entries := by
  induction entries with
  | nil => cases hlast
  | cons entry rest ih =>
    obtain ⟨key, first⟩ := entry
    rw [lastUnder?] at hlast
    split at hlast
    · rename_i later hlater
      obtain ⟨key', hmem⟩ := ih (hlater.trans hlast)
      exact ⟨key', List.mem_cons_of_mem _ hmem⟩
    · split at hlast
      · cases hlast
        exact ⟨key, List.mem_cons_self⟩
      · cases hlast

/-- Keys that are different in a value are so in its parts. -/
lemma DistinctKeys.follow? (hkeys : DistinctKeys value) {part : Value} {path : List Step}
    (hpath : value.follow? path = some part) : DistinctKeys part := by
  induction path generalizing value with
  | nil =>
    cases hpath
    exact hkeys
  | cons step path ih =>
    cases value with
    | sequence items =>
      cases step with
      | item i =>
        obtain ⟨item, hitem, hrest⟩ := Option.bind_eq_some_iff.mp hpath
        exact ih (distinctKeys_sequence_iff.mp hkeys item (List.mem_of_getElem? hitem)) hrest
      | entry text => cases hpath
    | mapping entries =>
      cases step with
      | item i => cases hpath
      | entry text =>
        obtain ⟨last, hlast, hrest⟩ := Option.bind_eq_some_iff.mp hpath
        obtain ⟨key, hentry⟩ := mem_of_lastUnder? hlast
        exact ih ((distinctKeys_mapping_iff.mp hkeys).2 (key, last) hentry) hrest
    | _ => cases step <;> cases hpath

/-- Every part of a value is kept. -/
lemma kept_of_toJson (hkeys : DistinctKeys value) (hread : value.toJson = .ok json) :
    Kept value json := by
  refine ⟨hread, ?_, ?_, ?_⟩
  · rintro items rfl
    obtain ⟨parts, hparts, hend⟩ := bind_eq_ok_iff.mp hread
    cases hend
    exact ⟨parts, rfl, forall₂_of_itemsToJson hparts⟩
  · rintro entries rfl
    obtain ⟨members, hmembers, hend⟩ := bind_eq_ok_iff.mp hread
    cases hend
    exact ⟨members.sort, rfl, merges_sort hmembers (distinctKeys_mapping_iff.mp hkeys).1⟩
  · rintro rfl
    cases value with
    | null => exact .inl rfl
    | real text =>
      obtain ⟨value, -, hvalue⟩ | ⟨hvalue, -⟩ := realToJson_eq_ok_iff.mp hread
      · cases hvalue
      · exact .inr ⟨text, rfl, hvalue⟩
    | sequence items =>
      obtain ⟨parts, -, hend⟩ := bind_eq_ok_iff.mp hread
      cases hend
    | mapping entries =>
      obtain ⟨members, -, hend⟩ := bind_eq_ok_iff.mp hread
      cases hend
    | _ => cases hread

/-- Each part of a value stands where it stood, and is kept there; a document is only left out when
it becomes null. -/
theorem conversion_keeps :
    (∀ (value : Value) (json : Json), DistinctKeys value → value.toJson = .ok json →
      ∀ path, Option.Rel Kept (value.follow? path) (json.follow? path)) ∧
    ∀ (text : List Char) (docs : List Json), documentsOf text = .ok docs →
      ∃ values converted, Yaml.values text = .ok values ∧
        (∀ value ∈ values, DistinctKeys value) ∧
        List.Forall₂ Kept values converted ∧ docs = converted.filter (· ≠ .null) := by
  constructor
  · intro value json hkeys hread path
    have hrel := rel_follow? hread path
    generalize hpart : value.follow? path = part at hrel
    generalize json.follow? path = found at hrel
    cases hrel with
    | none => exact .none
    | some hconverted => exact .some (kept_of_toJson (hkeys.follow? hpart) hconverted)
  · intro text docs hdocs
    obtain ⟨values, hvalues, hconvert⟩ := bind_eq_ok_iff.mp hdocs
    obtain ⟨converted, hall, rfl⟩ :=
      Manifest.convertAll_eq_ok_iff.mp (mapError_eq_ok_iff.mp hconvert)
    have hkeys := distinctKeys_of_values hvalues
    refine ⟨values, converted, hvalues, hkeys, ?_, rfl⟩
    have hboth := (List.forall₂_and_left values converted).mpr ⟨hkeys, hall⟩
    exact hboth.imp fun value json h => kept_of_toJson h.1 h.2

theorem conversion_keeps_nested :
    DistinctKeys (.mapping [(.string "list",
      .sequence [.int 1, .mapping [(.int 2, .string "a"), (.string "b", .real "1e999")]])]) ∧
    Option.Rel Kept
      (some (.mapping [(.int 2, .string "a"), (.string "b", .real "1e999")]))
      (some (.object [("2", .string "a"), ("b", .null)])) ∧
    documentsOf "a: [1, 1e999]\n---\n~\n".toList = .ok [.object [("a", .array [.int 1, .null])]] ∧
    ∃ values converted, Yaml.values "a: [1, 1e999]\n---\n~\n".toList = .ok values ∧
      (∀ value ∈ values, DistinctKeys value) ∧ List.Forall₂ Kept values converted ∧
      [.object [("a", .array [.int 1, .null])]] = converted.filter (· ≠ .null) := by
  have hkeys : DistinctKeys (.mapping [(.string "list",
      .sequence [.int 1, .mapping [(.int 2, .string "a"), (.string "b", .real "1e999")]])]) := by
    intro entries hentries
    simp only [Value.visits, visitsOfItems, visitsOfEntries, List.mem_cons, List.mem_append,
      Visit.value.injEq, Value.mapping.injEq, reduceCtorEq, List.not_mem_nil, false_or,
      or_false] at hentries
    rcases hentries with rfl | rfl <;> simp
  have hdocs : documentsOf "a: [1, 1e999]\n---\n~\n".toList =
      .ok [.object [("a", .array [.int 1, .null])]] := by
    decide +kernel
  exact ⟨hkeys, conversion_keeps.1 _ _ hkeys rfl [.entry "list", .item 1], hdocs,
    conversion_keeps.2 _ _ hdocs⟩

/-- Keys of one text leave one member of two entries, and a number that is too large leaves no
document. -/
theorem conversion_loses :
    (DistinctKeys (.mapping [(.int 1, .string "a"), (.string "1", .string "b")]) ∧
      (Value.mapping [(.int 1, .string "a"), (.string "1", .string "b")]).toJson =
        .ok (.object [("1", .string "b")])) ∧
    (Value.real "1e999").toJson = .ok .null ∧ documentsOf "1e999".toList = .ok [] := by
  refine ⟨⟨?_, rfl⟩, rfl, ?_⟩
  · intro entries hentries
    simp only [Value.visits, visitsOfEntries, List.mem_cons, List.mem_append, Visit.value.injEq,
      Value.mapping.injEq, reduceCtorEq, List.not_mem_nil, or_false] at hentries
    subst hentries
    simp
  · decide +kernel

end Yaml

end Provisioner
