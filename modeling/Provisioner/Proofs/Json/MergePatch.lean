import Provisioner.Proofs.Json.Members
/-!
# Merge patches

A merge patch is applied as RFC 7386 says: a patch that is an object sets the members that it has,
each by merging, and removes those for which it has null; any other patch takes the place of what it
is applied to.  What a patch does not touch is as it was, at every depth
(`at?_mergePatch_of_untouched`).
-/

namespace Provisioner.Json

namespace Members

/-- The members without those of a name. -/
def erase (name : String) (members : Members) : Members := members.filter fun m => m.1 ≠ name

/-- The members with one of a name set to a value. -/
def put (name : String) (value : Json) (members : Members) : Members :=
  members.erase name ++ member name value

end Members

mutual
/-- A value with a merge patch applied. -/
def mergePatch (target : Json) : Json → Json
  | .object patch => .object (mergeMembers (target.members?.getD []) patch)
  | .null => .null
  | .bool value => .bool value
  | .int value => .int value
  | .float value => .float value
  | .string value => .string value
  | .array items => .array items

/-- Members with those of a merge patch applied, one after the other. -/
def mergeMembers (target : Members) : Members → Members
  | [] => target
  | (name, .null) :: rest => mergeMembers (target.erase name) rest
  | (name, value) :: rest =>
    mergeMembers (target.put name (mergePatch ((target.find? name).getD .null) value)) rest
end

/-- The patch has nothing to say about what stands under the path, nor about what that stands in. -/
def Untouched : Json → List String → Prop
  | .object patch, name :: path => ∀ m ∈ patch, m.1 = name → Untouched m.2 path
  | _, _ => False

/-! ## The members of a patched object -/

variable {name key : String} {value : Json} {members rest : Members}

lemma find?_erase (members : Members) :
    (members.erase name).find? key = if key = name then none else members.find? key := by
  unfold Members.erase
  by_cases hkey : key = name
  · rw [if_pos hkey]
    refine Members.find?_eq_none fun m hm => ?_
    rw [hkey]
    simpa using (List.mem_filter.mp hm).2
  · rw [if_neg hkey]
    exact Members.find?_filter (fun other => decide (other ≠ name)) (by simpa) members

lemma find?_put (members : Members) :
    (members.put name value).find? key = if key = name then some value else members.find? key := by
  unfold Members.put
  rw [Members.find?_append, find?_member, find?_erase]
  by_cases hkey : key = name
  · simp [hkey]
  · simp [hkey, Ne.symm hkey]

lemma mergeMembers_null (target rest : Members) :
    mergeMembers target ((name, .null) :: rest) = mergeMembers (target.erase name) rest := rfl

lemma mergeMembers_cons (hvalue : value ≠ .null) (target rest : Members) :
    mergeMembers target ((name, value) :: rest) =
      mergeMembers (target.put name (mergePatch ((target.find? name).getD .null) value)) rest := by
  cases value with
  | null => exact absurd rfl hvalue
  | _ => rfl

lemma get?_eq_find? (target : Json) (name : String) :
    target.get? name = Members.find? name (target.members?.getD []) := by
  cases target <;> rfl

/-- What becomes of a member for which a patch has a value. -/
lemma get?_mergePatch_member (target : Json) (name : String) (hvalue : value ≠ .null) :
    (mergePatch target (.object [(name, value)])).get? name =
      some (mergePatch ((target.get? name).getD .null) value) := by
  have hmerge : mergePatch target (.object [(name, value)]) =
      .object (Members.put name (mergePatch ((target.get? name).getD .null) value)
        (target.members?.getD [])) := by
    rw [get?_eq_find?, mergePatch, mergeMembers_cons hvalue]
    rfl
  rw [hmerge, get?_eq_find?]
  show Members.find? name (Members.put _ _ _) = _
  rw [find?_put, if_pos rfl]

/-! ## What is not touched -/

lemma not_untouched_nil (patch : Json) : ¬ Untouched patch [] := by
  cases patch <;> exact id

/-- Where nothing of a patch is under a path, it leaves what stands there. -/
theorem at?_mergePatch_of_untouched {patch : Json} {path : List String}
    (untouched : Untouched patch path) (target : Json) :
    (mergePatch target patch).at? path = target.at? path := by
  induction path generalizing patch target with
  | nil => exact absurd untouched (not_untouched_nil patch)
  | cons name path ih =>
    cases patch with
    | object patch =>
      have hmembers : ∀ members : Members,
          ((mergeMembers members patch).find? name).bind (at? path) =
            (members.find? name).bind (at? path) := by
        induction patch with
        | nil => exact fun members => rfl
        | cons first rest ih' =>
          intro members
          obtain ⟨key, value⟩ := first
          have hrest : Untouched (.object rest) (name :: path) :=
            fun m hm => untouched m (List.mem_cons_of_mem _ hm)
          by_cases hkey : key = name
          · subst hkey
            have hvalue : Untouched value path := untouched (key, value) List.mem_cons_self rfl
            have hne : value ≠ .null := by
              rintro rfl
              cases path <;> exact hvalue
            rw [mergeMembers_cons hne, ih' hrest, find?_put, if_pos rfl, Option.bind_some,
              ih hvalue]
            cases members.find? key with
            | some old => rfl
            | none =>
              -- nothing is under the name yet, and what is put there has nothing under the path
              cases path with
              | nil => exact absurd hvalue (not_untouched_nil value)
              | cons next path => rfl
          · have hne : ¬ name = key := fun heq => hkey heq.symm
            by_cases hvalue : value = .null
            · rw [hvalue, mergeMembers_null, ih' hrest, find?_erase, if_neg hne]
            · rw [mergeMembers_cons hvalue, ih' hrest, find?_put, if_neg hne]
      rw [at?_cons, at?_cons, get?_eq_find? target]
      exact hmembers _
    | _ => exact absurd untouched id

end Provisioner.Json
