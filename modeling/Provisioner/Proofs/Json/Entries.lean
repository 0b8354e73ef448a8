import Provisioner.Kube.ObjectMeta
import Provisioner.Proofs.Except
import Provisioner.Proofs.Json.Fields
/-!
# Texts by name

Entries that are sorted by name stay so when one more is set, and setting one leaves every other one
as it is.  So it is for the object that they are written as.  Entries that are read from an object
are sorted.
-/

namespace Provisioner.Json

open Decoder (setEntry)

variable {α : Type} {name key : String} {value : α} {entries : List (String × α)}

/-- The names of entries rise. -/
def Ascending (entries : List (String × α)) : Prop := entries.Pairwise fun a b => a.1 < b.1

instance (entries : List (String × α)) : Decidable (Ascending entries) :=
  inferInstanceAs (Decidable (entries.Pairwise fun a b => a.1 < b.1))

/-- The members that entries are written as. -/
def written (encode : α → Json) (entries : List (String × α)) : Members :=
  entries.map fun (name, value) => (name, encode value)

lemma rising_written (encode : α → Json) :
    (written encode entries).Rising ↔ Ascending entries := by
  rw [written, Members.Rising, List.pairwise_map, Ascending]

/-- An entry is set among entries as a member is put among members. -/
lemma written_setEntry (encode : α → Json) (name : String) (value : α)
    (entries : List (String × α)) :
    written encode (setEntry name value entries) =
      (written encode entries).insert name (encode value) := by
  induction entries with
  | nil => rfl
  | cons first rest ih =>
    obtain ⟨key, old⟩ := first
    have hcons : written encode ((key, old) :: rest) = (key, encode old) :: written encode rest := rfl
    rw [setEntry, hcons, Members.insert]
    split
    · rfl
    · split
      · rfl
      · rw [← ih]
        rfl

lemma Ascending.setEntry (ascending : Ascending entries) (name : String) (value : α) :
    Ascending (setEntry name value entries) := by
  -- What the entries are written as makes no difference to the order of their names.
  have hrising := (rising_written fun _ => Json.null).mpr ascending
  rw [← rising_written fun _ => Json.null, written_setEntry]
  exact hrising.insert

/-- In the object that sorted entries are written as, setting one changes that one. -/
lemma get?_ofMap_setEntry (ascending : Ascending entries) (encode : α → Json) :
    (ofMap encode (setEntry name value entries)).get? key =
      if key = name then some (encode value) else (ofMap encode entries).get? key := by
  have hrising := (rising_written encode).mpr ascending
  have hset : ofMap encode (setEntry name value entries) =
      ofMembers ((written encode entries).insert name (encode value)) := by
    rw [← written_setEntry]
    rfl
  have hentries : ofMap encode entries = ofMembers (written encode entries) := rfl
  rw [hset, hentries, get?_ofMembers, get?_ofMembers, Members.find?_insert hrising]

/-- Entries that are read are sorted. -/
lemma ascending_of_map {d : Decoder α} {document : Json}
    (hread : Decoder.map d document = .ok entries) : Ascending entries := by
  have hfold : ∀ (given sorted : List (String × α)), Ascending sorted →
      Ascending (given.foldl (fun sorted (name, value) => setEntry name value sorted) sorted) := by
    intro given
    induction given with
    | nil => exact fun sorted hsorted => hsorted
    | cons first rest ih => exact fun sorted hsorted => ih _ (hsorted.setEntry first.1 first.2)
  cases document with
  | object members =>
    obtain ⟨given, -, hend⟩ := bind_eq_ok_iff.mp hread
    cases hend
    exact hfold given [] List.Pairwise.nil
  | _ => cases hread

end Provisioner.Json
