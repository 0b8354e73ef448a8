import Provisioner.Proofs.Manifest.Documents
/-!
# API versions

An API version is cut at its first slash, and the parts are joined by one, but for the core group,
which has no name and leaves no slash.  The two undo each other wherever they can.  What is lost is
a slash that begins an API version, since the empty group in front of it reads as the core group; and
a slash in the name of a group, or in a version of the core group, is taken for the one between the
parts.
-/

namespace Provisioner

namespace Resource

variable {apiVersion group version : String}

/-! ## Groups and versions -/

lemma joinApiVersion_empty (version : String) : joinApiVersion "" version = version := if_pos rfl

lemma joinApiVersion_of_ne (hgroup : group ≠ "") :
    joinApiVersion group version = group ++ "/" ++ version := if_neg hgroup

lemma slash_append_ne (text : String) : "/" ++ text ≠ text := by
  intro heq
  have hlength := congrArg String.length heq
  simp at hlength

/-- Joining gives back what was cut exactly when it did not begin with the slash. -/
lemma Splits.join_eq_iff (hsplits : Splits apiVersion group version) :
    joinApiVersion group version = apiVersion ↔ apiVersion.toList.head? ≠ some '/' := by
  cases hsplits with
  | core plain =>
    refine iff_of_true (joinApiVersion_empty _) fun hfirst => plain ?_
    exact List.mem_of_mem_head? hfirst
  | grouped joined first =>
    by_cases hgroup : group = ""
    -- Nothing stands before the slash, and joining the core group brings no slash back.
    · subst hgroup
      refine iff_of_false ?_ (by simp [joined])
      rw [joinApiVersion_empty, joined, String.empty_append]
      exact (slash_append_ne version).symm
    · refine iff_of_true (by rw [joinApiVersion_of_ne hgroup, joined]) ?_
      cases hlist : group.toList with
      | nil => exact absurd (String.toList_eq_nil_iff.mp hlist) hgroup
      | cons c rest =>
        rw [hlist, List.mem_cons, not_or] at first
        simpa [joined, hlist] using Ne.symm first.1

/-- Cutting gives back what was joined exactly when the slash between the parts is the first one. -/
lemma splits_joinApiVersion_iff :
    Splits (joinApiVersion group version) group version ↔
      group ≠ "" ∧ '/' ∉ group.toList ∨ group = "" ∧ '/' ∉ version.toList := by
  by_cases hgroup : group = ""
  · subst hgroup
    rw [joinApiVersion_empty]
    constructor
    · intro hsplits
      cases hsplits with
      | core plain => exact .inr ⟨rfl, plain⟩
      | grouped joined first => exact absurd (by simpa using joined.symm) (slash_append_ne version)
    · rintro (⟨hne, -⟩ | ⟨-, plain⟩)
      · exact absurd rfl hne
      · exact .core plain
  · rw [joinApiVersion_of_ne hgroup]
    constructor
    · intro hsplits
      -- The group has a name, so the cut is not that of the core group, whatever the text is.
      generalize group ++ "/" ++ version = joined at hsplits
      cases hsplits with
      | core plain => exact absurd rfl hgroup
      | grouped joined first => exact .inl ⟨hgroup, first⟩
    · rintro (⟨-, first⟩ | ⟨hempty, -⟩)
      · exact .grouped rfl first
      · exact absurd hempty hgroup

/-! ## The API version of a document -/

variable {document : Json} {r : Resource}

/-- The resource of a document has its API version, unless that begins with a slash. -/
lemma Describes.apiVersion_eq_iff (hdescribes : Describes document r) :
    ∃ text, textAt? ["apiVersion"] document = some text ∧
      (r.apiVersion = text ↔ text.toList.head? ≠ some '/') := by
  obtain ⟨text, htext, hsplits⟩ := hdescribes.groupVersion
  exact ⟨text, htext, hsplits.join_eq_iff⟩

end Resource

namespace Manifest

open Resource (Describes textAt?)
open Text.Utf8 (Bytes)

/-- **An API version survives being cut and joined unless it begins with a slash.**  And a group and
a version survive being joined and cut exactly when the group has a name without a slash, or it is
the core group and the version has none.  So a document, also one of a manifest, has the API version
of its resource exactly when it does not begin with a slash. -/
theorem apiVersion_round_trip :
    (∀ text, joinApiVersion (splitApiVersion text).1 (splitApiVersion text).2 = text ↔
      text.toList.head? ≠ some '/') ∧
    (∀ group version, splitApiVersion (joinApiVersion group version) = (group, version) ↔
      group ≠ "" ∧ '/' ∉ group.toList ∨ group = "" ∧ '/' ∉ version.toList) ∧
    (∀ document r, Resource.ofJson document = .ok r →
      ∃ text, textAt? ["apiVersion"] document = some text ∧
        (r.apiVersion = text ↔ text.toList.head? ≠ some '/')) ∧
    ∀ bytes resources, decode bytes = .ok resources → ∀ r ∈ resources,
      ∃ text, textAt? ["apiVersion"] r.body = some text ∧
        (r.apiVersion = text ↔ text.toList.head? ≠ some '/') := by
  refine ⟨fun text => ?_, fun group version => ?_, fun document r hread => ?_,
    fun bytes resources hdecode r hr => ?_⟩
  · exact (Resource.splits_iff.mpr rfl).join_eq_iff
  · rw [← Resource.splits_iff, Resource.splits_joinApiVersion_iff]
  · exact (Resource.ofJson_eq_ok_iff.mp hread).apiVersion_eq_iff
  · exact (describes_body_of_mem hdecode hr).apiVersion_eq_iff

/-- The document of a config map that names an API version. -/
def configMapOf (apiVersion : String) : Json :=
  .object [("apiVersion", .string apiVersion), ("kind", .string "ConfigMap"),
    ("metadata", .object [("name", .string "a")])]

/-- An API version with two slashes, and one that begins with a slash. -/
def slashedVersions : Bytes :=
  Text.Utf8.bytes ("apiVersion: apps/v1/beta\nkind: ConfigMap\nmetadata: \x7bname: a\x7d\n---\n" ++
    "apiVersion: /v1\nkind: ConfigMap\nmetadata: \x7bname: a\x7d\n")

theorem apiVersion_round_trip_slashed :
    ∃ first second, decode slashedVersions = .ok [first, second] ∧
      first.apiVersion = "apps/v1/beta" ∧ second.apiVersion ≠ "/v1" := by
  have hdecode : decode slashedVersions = .ok [
      ⟨"apps", "v1/beta", "ConfigMap", "a", none, configMapOf "apps/v1/beta"⟩,
      ⟨"", "v1", "ConfigMap", "a", none, configMapOf "/v1"⟩] := by decide +kernel
  obtain ⟨-, -, -, hall⟩ := apiVersion_round_trip
  refine ⟨_, _, hdecode, ?_, ?_⟩
  · obtain ⟨text, htext, hkept⟩ := hall _ _ hdecode _ List.mem_cons_self
    obtain rfl : "apps/v1/beta" = text := Option.some.inj htext
    exact hkept.mpr (by decide)
  · obtain ⟨text, htext, hkept⟩ := hall _ _ hdecode _ (List.mem_cons_of_mem _ List.mem_cons_self)
    obtain rfl : "/v1" = text := Option.some.inj htext
    exact fun heq => hkept.mp heq (by decide)

end Manifest

end Provisioner
