import Provisioner.Json.Fields
import Mathlib.Tactic.Lemma
/-!
# Members of objects

The last member of a name is the one that counts.  Sorting the members of an object by name changes
none of them, so an object that is written member by member holds what was written last.
-/

namespace Provisioner.Json

variable {name key : String} {value : Json} {members : Members}

namespace Members

/-- The names of members rise. -/
def Rising (members : Members) : Prop := members.Pairwise fun a b => a.1 < b.1

@[simp] lemma find?_append (xs ys : Members) :
    find? name (xs ++ ys) = ((find? name ys) <|> (find? name xs)) := by
  induction xs with
  | nil =>
    rw [List.nil_append, find?]
    cases find? name ys <;> rfl
  | cons m xs ih =>
    obtain ⟨key, value⟩ := m
    rw [List.cons_append, find?, ih, find?]
    cases find? name ys <;> rfl

lemma find?_eq_none (habsent : ∀ m ∈ members, m.1 ≠ name) : find? name members = none := by
  induction members with
  | nil => rfl
  | cons m rest ih =>
    obtain ⟨key, value⟩ := m
    rw [find?, ih fun m hm => habsent m (List.mem_cons_of_mem _ hm)]
    exact if_neg (habsent (key, value) List.mem_cons_self)

/-- A name that is kept is found as before. -/
lemma find?_filter (keep : String → Bool) (hkeep : keep name = true) (members : Members) :
    find? name (members.filter fun m => keep m.1) = find? name members := by
  induction members with
  | nil => rfl
  | cons first rest ih =>
    obtain ⟨key, value⟩ := first
    rw [find?, ← ih, List.filter_cons]
    dsimp only
    split
    · rfl
    · rename_i hdropped
      have hne : key ≠ name := fun heq => hdropped (heq ▸ hkeep)
      rw [if_neg hne]
      cases find? name (rest.filter fun m => keep m.1) <;> rfl

lemma mem_insert {m : String × Json} (hm : m ∈ members.insert name value) :
    m = (name, value) ∨ m ∈ members := by
  induction members with
  | nil => simpa [insert] using hm
  | cons first rest ih =>
    obtain ⟨key, old⟩ := first
    rw [insert] at hm
    split at hm
    · simpa using hm
    · split at hm
      · rcases List.mem_cons.mp hm with rfl | hm
        · exact .inl rfl
        · exact .inr (List.mem_cons_of_mem _ hm)
      · rcases List.mem_cons.mp hm with rfl | hm
        · exact .inr List.mem_cons_self
        · exact (ih hm).imp_right (List.mem_cons_of_mem _)

lemma Rising.insert (hrising : members.Rising) : (members.insert name value).Rising := by
  induction members with
  | nil => exact List.pairwise_singleton _ _
  | cons first rest ih =>
    obtain ⟨key, old⟩ := first
    obtain ⟨hfirst, hrest⟩ := List.pairwise_cons.mp hrising
    rw [Members.insert]
    split
    · rename_i hlt
      refine List.pairwise_cons.mpr ⟨fun m hm => ?_, hrising⟩
      rcases List.mem_cons.mp hm with rfl | hm
      · exact hlt
      · exact String.lt_trans hlt (hfirst m hm)
    · rename_i hnot
      split
      · rename_i heq
        subst heq
        exact List.pairwise_cons.mpr ⟨hfirst, hrest⟩
      · rename_i hne
        refine List.pairwise_cons.mpr ⟨fun m hm => ?_, ih hrest⟩
        rcases mem_insert hm with rfl | hm
        · -- neither is the new name smaller, nor is it the same
          exact Std.lt_of_le_of_ne (String.not_lt.mp hnot) hne
        · exact hfirst m hm

/-- A name below the first one is not among names that rise. -/
lemma Rising.find?_eq_none (hrising : members.Rising)
    (hbelow : ∀ m ∈ members.head?, name < m.1) : find? name members = none := by
  cases members with
  | nil => rfl
  | cons first rest =>
    have hfirst : name < first.1 := hbelow first rfl
    refine Members.find?_eq_none fun m hm => ?_
    rcases List.mem_cons.mp hm with rfl | hm
    · exact (Std.ne_of_lt hfirst).symm
    · exact (Std.ne_of_lt (String.lt_trans hfirst ((List.pairwise_cons.mp hrising).1 m hm))).symm

lemma find?_insert (hrising : members.Rising) :
    find? key (members.insert name value) =
      if key = name then some value else find? key members := by
  induction members with
  | nil => simp [insert, find?, eq_comm]
  | cons first rest ih =>
    obtain ⟨other, old⟩ := first
    obtain ⟨hfirst, hrest⟩ := List.pairwise_cons.mp hrising
    rw [Members.insert]
    split
    · rename_i hlt
      -- The new name goes first, and is not among the names that are above it.
      have habsent : find? name ((other, old) :: rest) = none :=
        hrising.find?_eq_none fun m hm => by
          cases hm
          exact hlt
      rw [find?]
      by_cases hkey : key = name
      · simp [hkey, habsent]
      · rw [if_neg (Ne.symm hkey), if_neg hkey]
        cases find? key ((other, old) :: rest) <;> rfl
    · split
      · rename_i heq
        subst heq
        -- The first member is replaced, and its name does not come again.
        have habsent : find? other rest = none := Members.find?_eq_none fun m hm =>
          (Std.ne_of_lt (hfirst m hm)).symm
        rw [find?, find?]
        by_cases hkey : key = other
        · simp [hkey, habsent]
        · rw [if_neg (Ne.symm hkey), if_neg (Ne.symm hkey), if_neg hkey]
      · rename_i hne
        rw [find?, ih hrest, find?]
        by_cases hkey : key = name
        · rw [if_pos hkey, if_pos hkey]
        · rw [if_neg hkey, if_neg hkey]

lemma find?_foldl_insert {sorted : Members} (hrising : sorted.Rising) :
    find? key (members.foldl (fun sorted (name, value) => sorted.insert name value) sorted) =
      ((find? key members) <|> (find? key sorted)) := by
  induction members generalizing sorted with
  | nil => simp [find?]
  | cons first rest ih =>
    obtain ⟨name, value⟩ := first
    rw [List.foldl_cons, ih hrising.insert, find?_insert hrising, find?]
    cases find? key rest with
    | some later => rfl
    | none =>
      by_cases hkey : key = name
      · simp [hkey]
      · simp [hkey, Ne.symm hkey]

/-- Sorting changes no member. -/
theorem find?_sort (members : Members) (key : String) :
    find? key members.sort = find? key members := by
  rw [sort, find?_foldl_insert List.Pairwise.nil]
  cases find? key members <;> rfl

end Members

/-! ### Objects that are written member by member -/

@[simp] lemma get?_ofMembers (members : Members) (name : String) :
    (ofMembers members).get? name = Members.find? name members := Members.find?_sort members name

@[simp] lemma find?_member (key name : String) (value : Json) :
    Members.find? name (member key value) = if key = name then some value else none := rfl

@[simp] lemma find?_member? {α : Type} (key name : String) (encode : α → Json)
    (value : Option α) :
    Members.find? name (member? key encode value) =
      if key = name then value.map encode else none := by
  cases value with
  | none => simp [member?, Members.find?]
  | some value => rfl

@[simp] lemma string?_string (text : String) : string? (.string text) = some text := rfl

@[simp] lemma at?_nil (value : Json) : at? [] value = some value := rfl

@[simp] lemma at?_cons (name : String) (path : List String) (value : Json) :
    at? (name :: path) value = (value.get? name).bind (at? path) := rfl

end Provisioner.Json
