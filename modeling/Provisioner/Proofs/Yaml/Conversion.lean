import Provisioner.Proofs.Except
import Provisioner.Yaml.Document
/-!
# Where a conversion fails

The nodes of a value come in the order of the document: a collection before its parts, the key of
an entry before its value (`Value.visits`).  `Offends` says which of them have no JSON, and with
which error and text that is reported.  A value has JSON exactly when none of its nodes offends, and
the error is about the first one that does; documents fail with the first of them that has none.
-/

namespace Provisioner.Yaml

/-! ## The nodes of a value -/

/-- A node in the place where it is met. -/
inductive Visit where
  /-- The whole, an item of a sequence or the value of an entry. -/
  | value (node : Value)
  /-- The key of an entry. -/
  | key (node : Value)

mutual
/-- The nodes of a value in the order of the document.  What is inside a key is not met. -/
def Value.visits : Value → List Visit
  | .sequence items => .value (.sequence items) :: visitsOfItems items
  | .mapping entries => .value (.mapping entries) :: visitsOfEntries entries
  | value => [.value value]

/-- The nodes of each item. -/
def visitsOfItems : List Value → List Visit
  | [] => []
  | item :: rest => item.visits ++ visitsOfItems rest

/-- Each key and the nodes of the value that follows it. -/
def visitsOfEntries : List (Value × Value) → List Visit
  | [] => []
  | (key, value) :: rest => .key key :: (value.visits ++ visitsOfEntries rest)
end

/-- The node is not a scalar, and no text stands for it as a key. -/
inductive Unsupported : Value → Prop
  | sequence (items : List Value) : Unsupported (.sequence items)
  | mapping (entries : List (Value × Value)) : Unsupported (.mapping entries)
  | alias (id : Nat) : Unsupported (.alias id)
  | bad : Unsupported .bad

/-- The node has no JSON where it stands, and how that is reported. -/
inductive Offends : Visit → ConversionError → String → Prop
  | alias (id : Nat) : Offends (.value (.alias id)) .alias "YAML aliases not supported"
  | bad : Offends (.value .bad) .badValue "bad YAML value"
  | emptyReal : Offends (.value (.real "")) .emptyReal "cannot parse float from empty string"
  | invalidReal {text : String} (written : text ≠ "") (unread : double? text.toList = none) :
      Offends (.value (.real text)) .invalidReal "invalid float literal"
  | key {node : Value} (unsupported : Unsupported node) :
      Offends (.key node) .unsupportedKey "unsupported YAML key type"

/-- The first node that has no JSON, with all those before it sound, and how it is reported. -/
def FirstOffence (visits : List Visit) (e : ConversionError) (text : String) : Prop :=
  ∃ before visit after, visits = before ++ visit :: after ∧
    (∀ other ∈ before, ∀ e text, ¬ Offends other e text) ∧ Offends visit e text

/-- The node can be converted where it stands as a value. -/
structure Convertible (node : Value) : Prop where
  followed : ∀ id, node ≠ .alias id
  good : node ≠ .bad
  read : ∀ text, node = .real text → ∃ value, double? text.toList = some value

variable {visit : Visit} {visits : List Visit} {e : ConversionError} {value : Value}
  {items : List Value} {entries : List (Value × Value)}

lemma mem_visitsOfItems :
    visit ∈ visitsOfItems items ↔ ∃ item ∈ items, visit ∈ item.visits := by
  induction items with
  | nil => simp [visitsOfItems]
  | cons item rest ih => simp [visitsOfItems, ih]

lemma mem_visitsOfEntries :
    visit ∈ visitsOfEntries entries ↔
      ∃ entry ∈ entries, visit = .key entry.1 ∨ visit ∈ entry.2.visits := by
  induction entries with
  | nil => simp [visitsOfEntries]
  | cons entry rest ih => simp [visitsOfEntries, ih, or_assoc]

lemma mem_visits_sequence_iff :
    visit ∈ (Value.sequence items).visits ↔
      visit = .value (.sequence items) ∨ ∃ item ∈ items, visit ∈ item.visits := by
  rw [Value.visits, List.mem_cons, mem_visitsOfItems]

lemma mem_visits_mapping_iff :
    visit ∈ (Value.mapping entries).visits ↔ visit = .value (.mapping entries) ∨
      ∃ entry ∈ entries, visit = .key entry.1 ∨ visit ∈ entry.2.visits := by
  rw [Value.visits, List.mem_cons, mem_visitsOfEntries]

/-! ## The error of a node -/

/-- The error of a node, if it has one. -/
def Visit.fault? : Visit → Option ConversionError
  | .value (.real text) => failure? (Value.realToJson text)
  | .value (.alias _) => some .alias
  | .value .bad => some .badValue
  | .value _ => none
  | .key node => failure? node.keyText

lemma keyText_eq_error_iff {node : Value} :
    node.keyText = .error e ↔ Unsupported node ∧ e = .unsupportedKey := by
  constructor
  · intro h
    cases node with
    | sequence items => exact ⟨.sequence items, by cases h; rfl⟩
    | mapping entries => exact ⟨.mapping entries, by cases h; rfl⟩
    | «alias» id => exact ⟨.alias id, by cases h; rfl⟩
    | bad => exact ⟨.bad, by cases h; rfl⟩
    | bool truth => cases truth <;> cases h
    | _ => cases h
  · rintro ⟨hnode, rfl⟩
    cases hnode <;> rfl

lemma realToJson_eq_error_iff {text : String} :
    Value.realToJson text = .error e ↔
      double? text.toList = none ∧ e = if text = "" then .emptyReal else .invalidReal := by
  unfold Value.realToJson
  cases double? text.toList with
  | none => simp [eq_comm]
  | some value => cases value <;> simp

lemma realToJson_eq_ok_iff {text : String} {json : Json} :
    Value.realToJson text = .ok json ↔
      (∃ value, double? text.toList = some (some value) ∧ json = .float value) ∨
      (double? text.toList = some none ∧ json = .null) := by
  unfold Value.realToJson
  cases double? text.toList with
  | none => simp
  | some value => cases value <;> simp [eq_comm]

lemma offends_iff {text : String} :
    Offends visit e text ↔ visit.fault? = some e ∧ text = e.message := by
  constructor
  · intro hvisit
    cases hvisit with
    | «alias» id => exact ⟨rfl, rfl⟩
    | bad => exact ⟨rfl, rfl⟩
    | emptyReal => exact ⟨rfl, rfl⟩
    | invalidReal written unread =>
      exact ⟨failure?_eq_some_iff.mpr (realToJson_eq_error_iff.mpr ⟨unread, by rw [if_neg written]⟩),
        rfl⟩
    | key unsupported =>
      exact ⟨failure?_eq_some_iff.mpr (keyText_eq_error_iff.mpr ⟨unsupported, rfl⟩), rfl⟩
  · rintro ⟨hfault, rfl⟩
    cases visit with
    | key node =>
      obtain ⟨hnode, rfl⟩ := keyText_eq_error_iff.mp (failure?_eq_some_iff.mp hfault)
      exact .key hnode
    | value node =>
      cases node with
      | real text =>
        obtain ⟨hunread, rfl⟩ := realToJson_eq_error_iff.mp (failure?_eq_some_iff.mp hfault)
        by_cases hempty : text = ""
        · subst hempty
          exact .emptyReal
        · rw [if_neg hempty]
          exact .invalidReal hempty hunread
      | «alias» id =>
        cases hfault
        exact .alias id
      | bad =>
        cases hfault
        exact .bad
      | _ => cases hfault

lemma forall_not_offends_iff :
    (∀ e text, ¬ Offends visit e text) ↔ visit.fault? = none := by
  simp only [offends_iff, Option.eq_none_iff_forall_ne_some]
  exact ⟨fun h e he => h e _ ⟨he, rfl⟩, fun h e text he => h e he.1⟩

lemma fault?_value_eq_none_iff {node : Value} :
    (Visit.value node).fault? = none ↔ Convertible node := by
  constructor
  · intro hfault
    refine ⟨?_, ?_, ?_⟩
    · rintro id rfl
      cases hfault
    · rintro rfl
      cases hfault
    · rintro text rfl
      cases hread : double? text.toList with
      | some value => exact ⟨value, rfl⟩
      | none =>
        have herror := realToJson_eq_error_iff.mpr ⟨hread, rfl⟩
        rw [Visit.fault?, herror] at hfault
        cases hfault
  · rintro ⟨hfollowed, hgood, hread⟩
    cases node with
    | «alias» id => exact absurd rfl (hfollowed id)
    | bad => exact absurd rfl hgood
    | real text =>
      -- a double that is not finite is null, and no error
      obtain ⟨value, hvalue⟩ := hread text rfl
      rw [Visit.fault?, Value.realToJson, hvalue]
      cases value <;> rfl
    | _ => rfl

lemma fault?_key_eq_none_iff {node : Value} :
    (Visit.key node).fault? = none ↔ ¬ Unsupported node := by
  rw [← forall_not_offends_iff]
  constructor
  · exact fun h hnode => h _ _ (.key hnode)
  · intro hnode e text hoffends
    cases hoffends with
    | key unsupported => exact hnode unsupported

/-! ## The first error counts -/

mutual
/-- A conversion fails with the error of the first node that has one. -/
theorem failure?_toJson (value : Value) :
    failure? value.toJson = value.visits.findSome? Visit.fault? := by
  cases value with
  | real text =>
    show failure? (Value.realToJson text) = List.findSome? Visit.fault? [.value (.real text)]
    rw [List.findSome?_singleton]
    rfl
  | sequence items =>
    rw [Value.toJson, failure?_bind_pure, failure?_itemsToJson items]
    rfl
  | mapping entries =>
    rw [Value.toJson, failure?_bind_pure, failure?_entriesToJson entries]
    rfl
  | _ => rfl

/-- So does that of some items, one after the other. -/
theorem failure?_itemsToJson (items : List Value) :
    failure? (Value.itemsToJson items) = (visitsOfItems items).findSome? Visit.fault? := by
  cases items with
  | nil => rfl
  | cons item rest =>
    rw [visitsOfItems, List.findSome?_append, ← failure?_toJson item, ← failure?_itemsToJson rest,
      Value.itemsToJson]
    exact failure?_bind fun first => failure?_bind_pure

/-- So does that of some entries, a key before its value. -/
theorem failure?_entriesToJson (entries : List (Value × Value)) :
    failure? (Value.entriesToJson entries) = (visitsOfEntries entries).findSome? Visit.fault? := by
  cases entries with
  | nil => rfl
  | cons entry rest =>
    obtain ⟨key, value⟩ := entry
    have hvisits : visitsOfEntries ((key, value) :: rest) =
        [.key key] ++ (value.visits ++ visitsOfEntries rest) := rfl
    rw [hvisits, List.findSome?_append, List.findSome?_append, List.findSome?_singleton,
      ← failure?_toJson value, ← failure?_entriesToJson rest, Value.entriesToJson]
    exact failure?_bind fun name => failure?_bind fun first => failure?_bind_pure
end

lemma firstOffence_iff {text : String} :
    FirstOffence visits e text ↔ visits.findSome? Visit.fault? = some e ∧ text = e.message := by
  rw [List.findSome?_eq_some_iff]
  simp only [FirstOffence, forall_not_offends_iff]
  simp only [offends_iff]
  constructor
  · rintro ⟨before, visit, after, hvisits, hbefore, hfault, htext⟩
    exact ⟨⟨before, visit, after, hvisits, hfault, hbefore⟩, htext⟩
  · rintro ⟨⟨before, visit, after, hvisits, hfault, hbefore⟩, htext⟩
    exact ⟨before, visit, after, hvisits, hbefore, hfault, htext⟩

lemma toJson_eq_error_iff :
    value.toJson = .error e ↔ FirstOffence value.visits e e.message := by
  rw [← failure?_eq_some_iff, failure?_toJson, firstOffence_iff]
  exact ⟨fun h => ⟨h, rfl⟩, And.left⟩

lemma exists_toJson_iff :
    (∃ json, value.toJson = .ok json) ↔
      (∀ node, .value node ∈ value.visits → Convertible node) ∧
      ∀ node, .key node ∈ value.visits → ¬ Unsupported node := by
  rw [← failure?_eq_none_iff, failure?_toJson, List.findSome?_eq_none_iff]
  simp only [← fault?_value_eq_none_iff, ← fault?_key_eq_none_iff]
  constructor
  · exact fun h => ⟨fun node => h (.value node), fun node => h (.key node)⟩
  · rintro ⟨hvalues, hkeys⟩ visit hvisit
    cases visit with
    | value node => exact hvalues node hvisit
    | key node => exact hkeys node hvisit

/-- A real is the same key as the string of its text. -/
lemma entriesToJson_real_key (before after : List (Value × Value)) (text : String)
    (value : Value) :
    Value.entriesToJson (before ++ (.real text, value) :: after) =
      Value.entriesToJson (before ++ (.string text, value) :: after) := by
  induction before with
  | nil => rfl
  | cons entry before ih =>
    obtain ⟨key, first⟩ := entry
    rw [List.cons_append, List.cons_append, Value.entriesToJson, Value.entriesToJson, ih]

/-! ## Documents -/

lemma failure?_convertAll (values : List Value) :
    failure? (convertAll values) = values.findSome? fun value => failure? value.toJson := by
  induction values with
  | nil => rfl
  | cons value rest ih =>
    have hvalues : value :: rest = [value] ++ rest := rfl
    rw [hvalues, List.findSome?_append, List.findSome?_singleton, ← ih]
    exact failure?_bind fun first => failure?_bind_pure

lemma values_ne_conversion (text : List Char) : values text ≠ .error (.conversion e) := by
  intro h
  rcases bind_eq_error_iff.mp h with htokens | ⟨tokens, -, h⟩
  · obtain ⟨_, -, hcause⟩ := mapError_eq_error_iff.mp htokens
    cases hcause
  rcases bind_eq_error_iff.mp h with hroots | ⟨roots, -, hload⟩
  · obtain ⟨_, -, hcause⟩ := mapError_eq_error_iff.mp hroots
    cases hcause
  · obtain ⟨_, -, hcause⟩ := mapError_eq_error_iff.mp hload
    cases hcause

lemma convertAll_eq_error_iff {values : List Value} :
    convertAll values = .error e ↔
      ∃ before value after, values = before ++ value :: after ∧
        (∀ other ∈ before, ∃ json, other.toJson = .ok json) ∧ value.toJson = .error e := by
  rw [← failure?_eq_some_iff, failure?_convertAll, List.findSome?_eq_some_iff]
  simp only [failure?_eq_some_iff, failure?_eq_none_iff]
  constructor
  · rintro ⟨before, value, after, hvalues, herror, hbefore⟩
    exact ⟨before, value, after, hvalues, hbefore, herror⟩
  · rintro ⟨before, value, after, hvalues, hbefore, herror⟩
    exact ⟨before, value, after, hvalues, herror, hbefore⟩

lemma exists_convertAll_iff {values : List Value} :
    (∃ docs, convertAll values = .ok docs) ↔
      ∀ value ∈ values, ∃ json, value.toJson = .ok json := by
  rw [← failure?_eq_none_iff, failure?_convertAll, List.findSome?_eq_none_iff]
  simp only [failure?_eq_none_iff]

lemma exists_documentsOf_iff (text : List Char) :
    (∃ docs, documentsOf text = .ok docs) ↔
      ∃ values, Yaml.values text = .ok values ∧
        ∀ value ∈ values, ∃ json, value.toJson = .ok json := by
  simp only [← exists_convertAll_iff]
  constructor
  · rintro ⟨docs, hdocs⟩
    obtain ⟨values, hvalues, hconvert⟩ := bind_eq_ok_iff.mp hdocs
    exact ⟨values, hvalues, docs, mapError_eq_ok_iff.mp hconvert⟩
  · rintro ⟨values, hvalues, docs, hconvert⟩
    exact ⟨docs, bind_eq_ok_iff.mpr ⟨values, hvalues, mapError_eq_ok_iff.mpr hconvert⟩⟩

lemma documentsOf_eq_error_iff (text : List Char) :
    documentsOf text = .error (.conversion e) ↔
      ∃ before value after, Yaml.values text = .ok (before ++ value :: after) ∧
        (∀ other ∈ before, ∃ json, other.toJson = .ok json) ∧
        FirstOffence value.visits e (Error.conversion e).message := by
  have hmessage : (Error.conversion e).message = e.message := rfl
  rw [hmessage]
  simp only [← toJson_eq_error_iff]
  constructor
  · intro h
    rcases bind_eq_error_iff.mp h with hvalues | ⟨values, hvalues, hconvert⟩
    · exact absurd hvalues (values_ne_conversion text)
    · obtain ⟨cause, hcause, heq⟩ := mapError_eq_error_iff.mp hconvert
      cases heq
      obtain ⟨before, value, after, rfl, hbefore, herror⟩ := convertAll_eq_error_iff.mp hcause
      exact ⟨before, value, after, hvalues, hbefore, herror⟩
  · rintro ⟨before, value, after, hvalues, hbefore, herror⟩
    have hcause := convertAll_eq_error_iff.mpr ⟨before, value, after, rfl, hbefore, herror⟩
    exact bind_eq_error_iff.mpr (.inr ⟨_, hvalues, mapError_eq_error_iff.mpr ⟨e, hcause, rfl⟩⟩)

/-- Whether a value has JSON, and what is reported when it has none. -/
theorem conversion_decided :
    (∀ value : Value, (∃ json, value.toJson = .ok json) ↔
      (∀ node, .value node ∈ value.visits → Convertible node) ∧
      ∀ node, .key node ∈ value.visits → ¬ Unsupported node) ∧
    (∀ (value : Value) (e : ConversionError),
      value.toJson = .error e ↔ FirstOffence value.visits e e.message) ∧
    (∀ (before after : List (Value × Value)) (text : String) (value : Value),
      (Value.mapping (before ++ (.real text, value) :: after)).toJson =
        (Value.mapping (before ++ (.string text, value) :: after)).toJson) ∧
    ∀ text : List Char,
      ((∃ docs, documentsOf text = .ok docs) ↔
        ∃ values, Yaml.values text = .ok values ∧
          ∀ value ∈ values, ∃ json, value.toJson = .ok json) ∧
      ∀ e, documentsOf text = .error (.conversion e) ↔
        ∃ before value after, Yaml.values text = .ok (before ++ value :: after) ∧
          (∀ other ∈ before, ∃ json, other.toJson = .ok json) ∧
          FirstOffence value.visits e (Error.conversion e).message := by
  refine ⟨fun value => exists_toJson_iff, fun value e => toJson_eq_error_iff,
    fun before after text value => ?_, fun text =>
      ⟨exists_documentsOf_iff text, fun e => documentsOf_eq_error_iff text⟩⟩
  rw [Value.toJson, Value.toJson, entriesToJson_real_key]

/-- A key that is no number is no offence, and what comes first is reported. -/
example : Value.toJson (.mapping [(.real "x", .null), (.null, .sequence [.alias 0, .bad])]) =
    .error .alias := rfl

end Provisioner.Yaml
