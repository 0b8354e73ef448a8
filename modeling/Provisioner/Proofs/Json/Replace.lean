import Provisioner.Proofs.Json.Members
/-!
# One place of a document

A document with another value under a path, and everything else as it is.  Two documents that are
written by the same members differ in that place only where the members do.
-/

namespace Provisioner.Json

namespace Members

/-- The members with the values of one name changed. -/
def alter (name : String) (f : Json → Json) (members : Members) : Members :=
  members.map fun m => if m.1 = name then (m.1, f m.2) else m

variable {name key : String} {f : Json → Json} {value : Json}

@[simp] lemma alter_nil : alter name f [] = [] := rfl

@[simp] lemma alter_append (xs ys : Members) :
    alter name f (xs ++ ys) = alter name f xs ++ alter name f ys := List.map_append

@[simp] lemma alter_member :
    alter name f (member key value) = member key (if key = name then f value else value) := by
  unfold alter member
  by_cases hkey : key = name <;> simp [hkey]

lemma alter_cons (key : String) (value : Json) (members : Members) :
    alter name f ((key, value) :: members) =
      (key, if key = name then f value else value) :: alter name f members := by
  by_cases hkey : key = name <;> simp [alter, hkey]

lemma alter_insert (members : Members) :
    alter name f (members.insert key value) =
      (alter name f members).insert key (if key = name then f value else value) := by
  induction members with
  | nil => exact alter_member
  | cons first rest ih =>
    obtain ⟨other, old⟩ := first
    rw [alter_cons, insert, insert]
    split
    · rw [alter_cons, alter_cons]
    · split
      · rw [alter_cons]
      · rw [alter_cons, ih]

lemma alter_sort (members : Members) : alter name f members.sort = (alter name f members).sort := by
  have hfold : ∀ sorted : Members,
      alter name f (members.foldl (fun sorted m => sorted.insert m.1 m.2) sorted) =
        (alter name f members).foldl (fun sorted m => sorted.insert m.1 m.2)
          (alter name f sorted) := by
    induction members with
    | nil => exact fun sorted => rfl
    | cons first rest ih =>
      intro sorted
      rw [List.foldl_cons, ih, alter_insert, alter_cons, List.foldl_cons]
  exact hfold []

end Members

/-- The document with another value under a path of names, where it has one. -/
def replaceAt : List String → Json → Json → Json
  | [], new, _ => new
  | name :: path, new, .object members => .object (Members.alter name (replaceAt path new) members)
  | _ :: _, _, value => value

@[simp] lemma replaceAt_nil (new value : Json) : replaceAt [] new value = new := rfl

@[simp] lemma replaceAt_ofMembers (name : String) (path : List String) (new : Json)
    (members : Members) :
    replaceAt (name :: path) new (ofMembers members) =
      ofMembers (Members.alter name (replaceAt path new) members) :=
  congrArg Json.object (Members.alter_sort members)

end Provisioner.Json
