import Provisioner.Proofs.Json.Members
/-!
# Records that are read back

A closed record that was written member by member is read field by field.  All names that are
written are names of fields and no name comes twice once the members are sorted, so each field is
read from the member that was written for it, and one that was not written is absent.
-/

namespace Provisioner.Json

variable {α : Type} {name key : String} {value : Json} {members : Members}

/-! ### The members of a written record -/

namespace Members

@[simp] lemma find?_nil (name : String) : find? name [] = none := rfl

lemma rising_foldl_insert {sorted : Members} (hrising : sorted.Rising) :
    (members.foldl (fun sorted (name, value) => sorted.insert name value) sorted).Rising := by
  induction members generalizing sorted with
  | nil => exact hrising
  | cons first rest ih => exact ih hrising.insert

lemma rising_sort (members : Members) : members.sort.Rising :=
  rising_foldl_insert List.Pairwise.nil

lemma mem_foldl_insert {sorted : Members} {m : String × Json}
    (hm : m ∈ members.foldl (fun sorted (name, value) => sorted.insert name value) sorted) :
    m ∈ members ∨ m ∈ sorted := by
  induction members generalizing sorted with
  | nil => exact .inr hm
  | cons first rest ih =>
    rcases ih hm with hm | hm
    · exact .inl (List.mem_cons_of_mem _ hm)
    · rcases mem_insert hm with rfl | hm
      · exact .inl List.mem_cons_self
      · exact .inr hm

/-- Sorting adds no member. -/
lemma mem_of_mem_sort {m : String × Json} (hm : m ∈ members.sort) : m ∈ members := by
  rcases mem_foldl_insert hm with hm | hm
  · exact hm
  · cases hm

/-- A name has a member exactly when a value is found for it. -/
lemma mem_names_iff : name ∈ members.map Prod.fst ↔ ∃ value, find? name members = some value := by
  induction members with
  | nil => simp [find?]
  | cons first rest ih =>
    obtain ⟨key, value⟩ := first
    rw [List.map_cons, List.mem_cons, ih, find?]
    cases find? name rest <;> simp [eq_comm]

/-- Among names that rise, the member of a name is the one that is found. -/
lemma Rising.mem_iff (hrising : members.Rising) :
    (name, value) ∈ members ↔ find? name members = some value := by
  induction members with
  | nil => simp [find?]
  | cons first rest ih =>
    obtain ⟨key, old⟩ := first
    obtain ⟨hfirst, hrest⟩ := List.pairwise_cons.mp hrising
    rw [List.mem_cons, ih hrest, find?]
    by_cases hkey : key = name
    · subst hkey
      have habsent : find? key rest = none :=
        Members.find?_eq_none fun m hm => (Std.ne_of_lt (hfirst m hm)).symm
      simp [habsent, eq_comm]
    · cases find? name rest <;> simp [hkey, Ne.symm hkey]

/-- Names that rise are different. -/
lemma Rising.nodup (hrising : members.Rising) : (members.map Prod.fst).Nodup :=
  List.pairwise_map.mpr (hrising.imp fun hlt => Std.ne_of_lt hlt)

/-- Names that rise are given once each. -/
lemma Rising.given_eq (hrising : members.Rising) (name : String) :
    Fields.given ⟨members⟩ name = (find? name members).toList := by
  induction members with
  | nil => rfl
  | cons first rest ih =>
    obtain ⟨key, value⟩ := first
    obtain ⟨hfirst, hrest⟩ := List.pairwise_cons.mp hrising
    have hgiven := ih hrest
    rw [Fields.given] at hgiven ⊢
    rw [List.filterMap_cons, find?]
    by_cases hkey : key = name
    · subst hkey
      have habsent : find? key rest = none :=
        Members.find?_eq_none fun m hm => (Std.ne_of_lt (hfirst m hm)).symm
      rw [habsent] at hgiven ⊢
      simp [hgiven]
    · rw [if_neg hkey]
      cases hfind : find? name rest <;> simp [hkey, hgiven, hfind]

/-- Names that rise do not come again. -/
lemma Rising.repeated?_eq_none (hrising : members.Rising) :
    Fields.repeated? (members.map Prod.fst) = none := by
  induction members with
  | nil => rfl
  | cons first rest ih =>
    obtain ⟨hfirst, hrest⟩ := List.pairwise_cons.mp hrising
    have hnew : first.1 ∉ rest.map Prod.fst := by
      rintro hmem
      obtain ⟨m, hm, heq⟩ := List.mem_map.mp hmem
      exact Std.ne_of_lt (hfirst m hm) heq.symm
    rw [List.map_cons, Fields.repeated?, if_neg hnew, ih hrest]

/-- All names of the members are among these. -/
def Within (names : List String) (members : Members) : Prop := ∀ m ∈ members, m.1 ∈ names

variable {names : List String}

@[simp] lemma within_append {xs ys : Members} :
    Within names (xs ++ ys) ↔ Within names xs ∧ Within names ys := by
  simp [Within, or_imp, forall_and]

@[simp] lemma within_nil : Within names [] := by simp [Within]

@[simp] lemma within_member : Within names (member name value) ↔ name ∈ names := by
  simp [Within, member]

@[simp] lemma within_member? {encode : α → Json} {value : Option α} (hname : name ∈ names) :
    Within names (member? name encode value) := by
  cases value with
  | none => simp [member?]
  | some value => simpa [Within, member?] using hname

end Members

/-- A written record whose names are fields is read as the record of its members. -/
lemma closed_ofMembers {names : List String} (hwithin : members.Within names) :
    Fields.closed names (ofMembers members) = .ok ⟨members.sort⟩ := by
  have hknown : (members.sort.filter fun (name, _) => names.contains name) = members.sort := by
    refine List.filter_eq_self.mpr fun m hm => ?_
    exact List.contains_iff_mem.mpr (hwithin m (Members.mem_of_mem_sort hm))
  rw [ofMembers, Fields.closed, hknown, (Members.rising_sort members).repeated?_eq_none]

/-! ### Fields of a written record -/

@[simp] lemma ok_bind {ε β : Type} (x : α) (f : α → Except ε β) : (Except.ok x >>= f) = f x := rfl

@[simp] lemma map_ok {ε β : Type} (f : α → β) (x : α) :
    f <$> (Except.ok x : Except ε α) = .ok (f x) := rfl

/-- Every value is read back from what it is written as, and nothing is written as null. -/
structure ReadsBack (d : Decoder α) (encode : α → Json) : Prop where
  decode_encode : ∀ x, d (encode x) = .ok x
  ne_null : ∀ x, encode x ≠ .null

lemma last?_sort_none (d : Decoder α) (hfind : members.find? name = none) :
    Fields.last? ⟨members.sort⟩ name d = .ok none := by
  rw [Fields.last?, (Members.rising_sort members).given_eq, Members.find?_sort, hfind]
  rfl

/-- The last value of a field of a written record is the one that was written. -/
lemma last?_sort_some (d : Decoder α) (hfind : members.find? name = some value) :
    Fields.last? ⟨members.sort⟩ name d = (d value).map some := by
  rw [Fields.last?, (Members.rising_sort members).given_eq, Members.find?_sort, hfind,
    Option.toList_some, Decoder.items]
  cases d value <;> rfl

/-- Reading a field that may be absent. -/
def readOptional (d : Decoder α) : Option Json → Except DecodeError (Option α)
  | none => .ok none
  | some value => d.nullable value

lemma optional_sort (members : Members) (name : String) (d : Decoder α) :
    Fields.optional ⟨members.sort⟩ name d = readOptional d (members.find? name) := by
  cases hfind : members.find? name with
  | none =>
    rw [Fields.optional, last?_sort_none _ hfind]
    rfl
  | some value =>
    rw [Fields.optional, last?_sort_some _ hfind, readOptional]
    cases d.nullable value <;> rfl

lemma required_sort {d : Decoder α} (hfind : members.find? name = some value) :
    Fields.required ⟨members.sort⟩ name d = d value := by
  rw [Fields.required, last?_sort_some d hfind]
  cases d value <;> rfl

lemma defaulted_sort {d : Decoder α} {x : α} (hfind : members.find? name = some value) :
    Fields.defaulted ⟨members.sort⟩ name d x = d value := by
  rw [Fields.defaulted, last?_sort_some d hfind]
  cases d value <;> rfl

/-- A field that was written when there was a value is read as it was. -/
lemma ReadsBack.optional {d : Decoder α} {encode : α → Json} (hback : ReadsBack d encode)
    (x : Option α) : readOptional d (x.map encode) = .ok x := by
  cases x with
  | none => rfl
  | some x =>
    rw [Option.map_some, readOptional, Decoder.nullable_of_ne_null (hback.ne_null x),
      hback.decode_encode]
    rfl

/-! ### Values -/

lemma readsBack_string : ReadsBack Decoder.string .string :=
  ⟨fun _ => rfl, fun _ h => by cases h⟩

lemma readsBack_bool : ReadsBack Decoder.bool .bool :=
  ⟨fun _ => rfl, fun _ h => by cases h⟩

lemma readsBack_signed32 : ReadsBack Decoder.signed32 ofInt32 where
  decode_encode n := by
    have hlow := Int32.le_toInt n
    have hhigh := Int32.toInt_lt n
    have hrange : -0x80000000 ≤ n.toInt ∧ n.toInt ≤ 0x7FFFFFFF := by omega
    rw [Decoder.signed32, ofInt32, Decoder.int32, Decoder.intBetween, if_pos hrange, Except.map,
      Int32.ofInt_toInt]
  ne_null n h := by cases h

lemma items_map {d : Decoder α} {encode : α → Json} (hread : ∀ x, d (encode x) = .ok x)
    (xs : List α) : Decoder.items d (xs.map encode) = .ok xs := by
  induction xs with
  | nil => rfl
  | cons x xs ih =>
    rw [List.map_cons, Decoder.items, hread, ih]
    rfl

lemma ReadsBack.list {d : Decoder α} {encode : α → Json} (hback : ReadsBack d encode) :
    ReadsBack (Decoder.list d) (ofList encode) :=
  ⟨items_map hback.decode_encode, fun _ h => by cases h⟩

lemma ofMembers_ne_null (members : Members) : ofMembers members ≠ .null := by
  intro h
  cases h

/-! ### Values by their paths -/

/-- What stands under paths of member names; nothing where there is no value. -/
abbrev Places : Type := List (List String × Option Json)

namespace Places

/-- The same places one level further down. -/
def under (name : String) (places : Places) : Places :=
  places.map fun place => (name :: place.1, place.2)

/-- The places of a part that may be absent. -/
def under? (name : String) (encode : α → Json) (places : α → Places) : Option α → Places
  | none => [([name], none)]
  | some x => ([name], some (encode x)) :: under name (places x)

/-- The value holds in each of the places what is said to stand there. -/
def Hold (places : Places) (value : Json) : Prop := ∀ place ∈ places, value.at? place.1 = place.2

variable {places : Places}

@[simp] lemma bind_at?_nil (value : Option Json) : value.bind (at? []) = value := by
  cases value <;> rfl

@[simp] lemma hold_nil : Hold [] value := by simp [Hold]

@[simp] lemma hold_cons {place : List String × Option Json} :
    Hold (place :: places) value ↔ value.at? place.1 = place.2 ∧ Hold places value := by
  simp [Hold]

@[simp] lemma hold_append {places' : Places} :
    Hold (places ++ places') value ↔ Hold places value ∧ Hold places' value := by
  simp [Hold, or_imp, forall_and]

lemma hold_under {part : Json} (hget : value.get? name = some part) (hold : Hold places part) :
    Hold (under name places) value := by
  rintro _ hplace
  obtain ⟨place, hmem, rfl⟩ := List.mem_map.mp hplace
  rw [at?_cons, hget]
  exact hold place hmem

lemma hold_under? {encode : α → Json} {places : α → Places} {x : Option α}
    (hget : value.get? name = x.map encode) (hold : ∀ x, Hold (places x) (encode x)) :
    Hold (under? name encode places x) value := by
  cases x with
  | none => simp [under?, hget]
  | some x => simpa [under?, hget] using hold_under hget (hold x)

end Places

end Provisioner.Json
