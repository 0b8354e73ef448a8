import Provisioner.Kube.Object
import Provisioner.Proofs.Except
import Provisioner.Proofs.Json.Members
/-!
# Fields that are read

Whatever members a record is read from, a field that has been read is what its last member says:
each reader of a field is described by the member that counts, `Members.find?`.
-/

namespace Provisioner.Json

variable {α : Type} {d : Decoder α} {name : String} {members : Members} {fields : Fields}

/-- The last value that is given for a field is that of its last member. -/
lemma getLast?_given (members : Members) (name : String) :
    (Fields.given ⟨members⟩ name).getLast? = members.find? name := by
  induction members with
  | nil => rfl
  | cons first rest ih =>
    obtain ⟨key, value⟩ := first
    have hgiven : Fields.given ⟨(key, value) :: rest⟩ name =
        (if key = name then [value] else []) ++ Fields.given ⟨rest⟩ name := by
      by_cases hkey : key = name <;> simp [Fields.given, hkey]
    rw [hgiven, List.getLast?_append, ih, Members.find?]
    cases Members.find? name rest <;> by_cases hkey : key = name <;> simp [hkey]

/-- The fields of a closed record that is an object are its members. -/
lemma find?_of_closed {names : List String} (hname : name ∈ names)
    (hclosed : Fields.closed names (.object members) = .ok fields) :
    fields.members.find? name = members.find? name := by
  unfold Fields.closed at hclosed
  dsimp only at hclosed
  split at hclosed
  · cases hclosed
  · cases hclosed
    exact Members.find?_filter names.contains (List.contains_iff_mem.mpr hname) members

/-- The last item that is read is that of the last value. -/
lemma getLast?_of_items {values : List Json} {xs : List α}
    (hread : Decoder.items d values = .ok xs) :
    Option.Rel (fun value x => d value = .ok x) values.getLast? xs.getLast? := by
  induction values generalizing xs with
  | nil =>
    cases hread
    exact .none
  | cons value rest ih =>
    obtain ⟨first, hfirst, hthen⟩ := bind_eq_ok_iff.mp hread
    obtain ⟨later, hlater, hend⟩ := bind_eq_ok_iff.mp hthen
    cases hend
    have hrest := ih hlater
    rw [List.getLast?_cons, List.getLast?_cons]
    generalize rest.getLast? = last at hrest ⊢
    generalize later.getLast? = last' at hrest ⊢
    cases hrest with
    | none => exact .some hfirst
    | some hlast => exact .some hlast

/-- What has been read of a field is what its last member says. -/
lemma last?_eq_ok {x : Option α} (hread : fields.last? name d = .ok x) :
    Option.Rel (fun value x => d value = .ok x) (fields.members.find? name) x := by
  obtain ⟨xs, hitems, hx⟩ := bind_eq_ok_iff.mp hread
  cases hx
  rw [← getLast?_given]
  exact getLast?_of_items hitems

/-- A field that must be given has a member. -/
lemma required_eq_ok {x : α} (hread : fields.required name d = .ok x) :
    ∃ value, fields.members.find? name = some value ∧ d value = .ok x := by
  obtain ⟨found, hlast, hend⟩ := bind_eq_ok_iff.mp hread
  cases found with
  | none => cases hend
  | some x' =>
    cases hend
    generalize hfind : fields.members.find? name = member at *
    cases hfind ▸ last?_eq_ok hlast with
    | some hvalue => exact ⟨_, rfl, hvalue⟩

/-- A field that may be absent is what its last member says; null says nothing. -/
lemma optional_eq_ok {x : Option α} (hread : fields.optional name d = .ok x) :
    (x = none ∧ (fields.members.find? name = none ∨ fields.members.find? name = some .null)) ∨
    ∃ value a, fields.members.find? name = some value ∧ value ≠ .null ∧ d value = .ok a ∧
      x = some a := by
  obtain ⟨found, hlast, hend⟩ := bind_eq_ok_iff.mp hread
  cases hend
  have hmember := last?_eq_ok hlast
  generalize fields.members.find? name = member at hmember
  cases hmember with
  | none => exact .inl ⟨rfl, .inl rfl⟩
  | @some value _ hvalue =>
    by_cases hnull : value = .null
    · subst hnull
      cases hvalue
      exact .inl ⟨rfl, .inr rfl⟩
    · rw [Decoder.nullable_of_ne_null hnull] at hvalue
      obtain ⟨a, ha, rfl⟩ := map_eq_ok_iff.mp hvalue
      exact .inr ⟨value, a, rfl, hnull, ha, rfl⟩

/-- A text that may be absent is there exactly when the last member is that text. -/
lemma optional_string_eq_some_iff {x : Option String} {text : String}
    (hread : fields.optional name Decoder.string = .ok x) :
    x = some text ↔ fields.members.find? name = some (.string text) := by
  obtain ⟨rfl, hfind | hfind⟩ | ⟨value, content, hfind, -, hvalue, rfl⟩ := optional_eq_ok hread
  · simp [hfind]
  · simp [hfind]
  · cases value with
    | string given =>
      cases hvalue
      simp [hfind]
    | _ => cases hvalue

/-- A truth value that is false when it is absent is true exactly when the last member is. -/
lemma defaulted_bool_eq_true_iff {x : Bool}
    (hread : fields.defaulted name Decoder.bool false = .ok x) :
    x = true ↔ fields.members.find? name = some (.bool true) := by
  obtain ⟨found, hlast, hend⟩ := bind_eq_ok_iff.mp hread
  cases hend
  have hmember := last?_eq_ok hlast
  generalize fields.members.find? name = member at hmember
  cases hmember with
  | none => simp
  | @some value _ hvalue =>
    cases value with
    | bool truth =>
      cases hvalue
      simp
    | _ => cases hvalue

/-- The parts that an object of a custom kind is read from. -/
lemma exists_of_decodeObject {β γ : Type} {spec : Decoder α} {status : Decoder β}
    {build : ObjectMeta → α → Option β → γ} {x : γ}
    (hread : decodeObject spec status build (.object members) = .ok x) :
    ∃ metadata m specification a b,
      members.find? "metadata" = some metadata ∧ ObjectMeta.decode metadata = .ok m ∧
      members.find? "spec" = some specification ∧ spec specification = .ok a ∧
      x = build m a b := by
  obtain ⟨fields, hfields, hthen⟩ := bind_eq_ok_iff.mp hread
  obtain ⟨_, -, hthen⟩ := bind_eq_ok_iff.mp hthen
  obtain ⟨_, -, hthen⟩ := bind_eq_ok_iff.mp hthen
  obtain ⟨m, hm, hthen⟩ := bind_eq_ok_iff.mp hthen
  obtain ⟨a, ha, hthen⟩ := bind_eq_ok_iff.mp hthen
  obtain ⟨b, -, hend⟩ := bind_eq_ok_iff.mp hthen
  cases hend
  obtain ⟨metadata, hmetadata, hdecode⟩ := required_eq_ok hm
  obtain ⟨specification, hspecification, hspec⟩ := required_eq_ok ha
  rw [find?_of_closed (by simp) hfields] at hmetadata hspecification
  exact ⟨metadata, m, specification, a, b, hmetadata, hdecode, hspecification, hspec, rfl⟩

end Provisioner.Json
