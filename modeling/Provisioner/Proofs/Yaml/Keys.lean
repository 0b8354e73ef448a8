import Provisioner.Proofs.Yaml.Conversion
/-!
# Keys that differ

No mapping of a document has a key twice: that is how its entries are put together from their
nodes, and what an anchor stands for was put together in the same way.  What this says about the
mappings that are met in a value is `DistinctKeys`.
-/

namespace Provisioner.Yaml

/-- The keys of every mapping that is met in a value are different. -/
def DistinctKeys (value : Value) : Prop :=
  ∀ entries, Visit.value (.mapping entries) ∈ value.visits →
    entries.Pairwise fun a b => a.1 ≠ b.1

variable {value : Value} {visit : Visit} {items values : List Value}
  {entries done : List (Value × Value)}

/-! ## Keys in the parts -/

lemma distinctKeys_sequence_iff :
    DistinctKeys (.sequence items) ↔ ∀ item ∈ items, DistinctKeys item := by
  simp only [DistinctKeys, mem_visits_sequence_iff]
  constructor
  · exact fun h item hitem entries hentries => h entries (.inr ⟨item, hitem, hentries⟩)
  · rintro h entries (heq | ⟨item, hitem, hentries⟩)
    · cases heq
    · exact h item hitem entries hentries

lemma distinctKeys_mapping_iff :
    DistinctKeys (.mapping entries) ↔
      entries.Pairwise (fun a b => a.1 ≠ b.1) ∧ ∀ entry ∈ entries, DistinctKeys entry.2 := by
  simp only [DistinctKeys, mem_visits_mapping_iff]
  constructor
  · exact fun h => ⟨h entries (.inl rfl), fun entry hentry inner hinner =>
      h inner (.inr ⟨entry, hentry, .inr hinner⟩)⟩
  · rintro ⟨hentries, hvalues⟩ inner (heq | ⟨entry, hentry, heq | hinner⟩)
    · cases heq
      exact hentries
    · cases heq
    · exact hvalues entry hentry inner hinner

/-- A value that is no collection has no keys. -/
lemma distinctKeys_scalar (hsequence : ∀ items, value ≠ .sequence items)
    (hmapping : ∀ entries, value ≠ .mapping entries) : DistinctKeys value := by
  have hvisits : value.visits = [.value value] := by
    cases value with
    | sequence items => exact absurd rfl (hsequence items)
    | mapping entries => exact absurd rfl (hmapping entries)
    | _ => rfl
  intro entries hentries
  rw [hvisits] at hentries
  cases List.mem_singleton.mp hentries
  exact absurd rfl (hmapping entries)

/-! ## Keys that are compared -/

mutual
/-- A value is the same as itself. -/
theorem same_self (value : Value) : value.same value = true := by
  cases value with
  | sequence items => exact sameItems_self items
  | mapping entries => exact sameEntries_self entries
  | _ => simp [Value.same]

theorem sameItems_self (items : List Value) : Value.sameItems items items = true := by
  cases items with
  | nil => rfl
  | cons item rest => rw [Value.sameItems, same_self item, sameItems_self rest, Bool.and_self]

theorem sameEntries_self (entries : List (Value × Value)) :
    Value.sameEntries entries entries = true := by
  cases entries with
  | nil => rfl
  | cons entry rest =>
    obtain ⟨key, value⟩ := entry
    rw [Value.sameEntries, same_self key, same_self value, sameEntries_self rest, Bool.and_self,
      Bool.and_self]
end

/-- Entries that are put together have different keys, and values from those that were given. -/
lemma distinct_of_entriesOf {pending : Option Value}
    (hread : entriesOf pending done values = .ok entries)
    (hdone : done.Pairwise fun a b => a.1 ≠ b.1) (hheld : ∀ entry ∈ done, DistinctKeys entry.2)
    (hvalues : ∀ value ∈ values, DistinctKeys value) :
    entries.Pairwise (fun a b => a.1 ≠ b.1) ∧ ∀ entry ∈ entries, DistinctKeys entry.2 := by
  induction values generalizing pending done with
  | nil =>
    have hentries : done.reverse = entries := by cases pending <;> exact Except.ok.inj hread
    subst hentries
    exact ⟨List.pairwise_reverse.mpr (hdone.imp Ne.symm),
      fun entry hentry => hheld entry (List.mem_reverse.mp hentry)⟩
  | cons value rest ih =>
    obtain ⟨hvalue, hrest⟩ := List.forall_mem_cons.mp hvalues
    cases pending with
    | none =>
      -- a key is only kept, or passed over
      cases value <;> exact ih hread hdone hheld hrest
    | some key =>
      rw [entriesOf] at hread
      split at hread
      · cases hread
      · rename_i hnew
        refine ih hread (List.pairwise_cons.mpr ⟨fun entry hentry heq => hnew ?_, hdone⟩)
          (List.forall_mem_cons.mpr ⟨hvalue, hheld⟩) hrest
        exact List.any_eq_true.mpr ⟨entry, hentry, heq ▸ same_self key⟩

/-! ## Keys of documents -/

/-- What the anchors of a document stand for has different keys. -/
def Anchors.Distinct (a : Anchors) : Prop := ∀ entry ∈ a.values, DistinctKeys entry.2

namespace Anchors

variable {a : Anchors} {id : Option Nat}

lemma Distinct.open (ha : a.Distinct) (name : Option String) : (a.open name).2.Distinct := by
  cases name <;> exact ha

lemma Distinct.close (ha : a.Distinct) (id : Option Nat) (hvalue : DistinctKeys value) :
    (a.close id value).Distinct := by
  cases id with
  | none => exact ha
  | some id => exact List.forall_mem_cons.mpr ⟨hvalue, ha⟩

lemma Distinct.value? (ha : a.Distinct) {name : String} (hvalue : a.value? name = some value) :
    DistinctKeys value := by
  obtain ⟨id, -, rfl⟩ := Option.map_eq_some_iff.mp hvalue
  cases hfound : a.values.lookup id with
  | none => exact distinctKeys_scalar nofun nofun
  | some found =>
    obtain ⟨earlier, later, hvalues, -⟩ := List.lookup_eq_some_iff.mp hfound
    exact ha (id, found) (by simp [hvalues])

end Anchors

/-- What a plain scalar means has no keys. -/
lemma distinctKeys_resolvePlain (text : String) : DistinctKeys (resolvePlain text) := by
  have hint : ∀ (n : Option Int) (value : Value), n.map Value.int = some value →
      DistinctKeys value := by
    intro n value hvalue
    obtain ⟨n, -, rfl⟩ := Option.map_eq_some_iff.mp hvalue
    exact distinctKeys_scalar nofun nofun
  unfold resolvePlain
  dsimp only
  split
  · rename_i value hspecial
    split at hspecial
    · exact hint _ value hspecial
    · exact hint _ value hspecial
    · exact hint _ value hspecial
    · cases hspecial
  · repeat' split
    all_goals exact distinctKeys_scalar nofun nofun

/-- What a scalar means has no keys. -/
lemma distinctKeys_resolveScalar (tag : Option Tag) (style : Style) (text : String) :
    DistinctKeys (resolveScalar tag style text) := by
  unfold resolveScalar
  repeat' split
  all_goals first
    | exact distinctKeys_resolvePlain text
    | exact distinctKeys_scalar nofun nofun

mutual
/-- What a node means has different keys, if the anchors before it have. -/
theorem distinctKeys_of_load (node : Node) {a a' : Anchors} {value : Value} (ha : a.Distinct)
    (hload : node.load a = .ok (value, a')) : DistinctKeys value ∧ a'.Distinct := by
  cases node with
  | «alias» name =>
    rw [Node.load] at hload
    split at hload
    · rename_i found hfound
      cases hload
      exact ⟨ha.value? hfound, ha⟩
    · cases hload
  | scalar p style text =>
    cases hload
    have hvalue := distinctKeys_resolveScalar p.tag style text
    exact ⟨hvalue, (ha.open p.anchor).close _ hvalue⟩
  | sequence p items =>
    rw [Node.load] at hload
    obtain ⟨⟨values, a''⟩, hitems, hend⟩ := bind_eq_ok_iff.mp hload
    cases hend
    obtain ⟨hvalues, ha''⟩ := distinctKeys_of_loadItems items (ha.open p.anchor) hitems
    have hvalue := distinctKeys_sequence_iff.mpr hvalues
    exact ⟨hvalue, ha''.close _ hvalue⟩
  | mapping p entries =>
    rw [Node.load] at hload
    obtain ⟨⟨values, a''⟩, hparts, hthen⟩ := bind_eq_ok_iff.mp hload
    obtain ⟨entries', hentries, hend⟩ := bind_eq_ok_iff.mp hthen
    cases hend
    obtain ⟨hvalues, ha''⟩ := distinctKeys_of_loadEntries entries (ha.open p.anchor) hparts
    have hvalue := distinctKeys_mapping_iff.mpr
      (distinct_of_entriesOf hentries List.Pairwise.nil nofun hvalues)
    exact ⟨hvalue, ha''.close _ hvalue⟩

theorem distinctKeys_of_loadItems (items : List Node) {a a' : Anchors} {values : List Value}
    (ha : a.Distinct) (hload : loadItems items a = .ok (values, a')) :
    (∀ value ∈ values, DistinctKeys value) ∧ a'.Distinct := by
  cases items with
  | nil =>
    cases hload
    exact ⟨nofun, ha⟩
  | cons node rest =>
    rw [loadItems] at hload
    obtain ⟨⟨value, a₁⟩, hfirst, hthen⟩ := bind_eq_ok_iff.mp hload
    obtain ⟨⟨later, a₂⟩, hrest, hend⟩ := bind_eq_ok_iff.mp hthen
    cases hend
    obtain ⟨hvalue, ha₁⟩ := distinctKeys_of_load node ha hfirst
    obtain ⟨hlater, ha₂⟩ := distinctKeys_of_loadItems rest ha₁ hrest
    exact ⟨List.forall_mem_cons.mpr ⟨hvalue, hlater⟩, ha₂⟩

theorem distinctKeys_of_loadEntries (entries : List (Node × Node)) {a a' : Anchors}
    {values : List Value} (ha : a.Distinct) (hload : loadEntries entries a = .ok (values, a')) :
    (∀ value ∈ values, DistinctKeys value) ∧ a'.Distinct := by
  cases entries with
  | nil =>
    cases hload
    exact ⟨nofun, ha⟩
  | cons entry rest =>
    obtain ⟨keyNode, valueNode⟩ := entry
    rw [loadEntries] at hload
    obtain ⟨⟨key, a₁⟩, hfirst, hthen⟩ := bind_eq_ok_iff.mp hload
    obtain ⟨⟨value, a₂⟩, hsecond, hthen⟩ := bind_eq_ok_iff.mp hthen
    obtain ⟨⟨later, a₃⟩, hrest, hend⟩ := bind_eq_ok_iff.mp hthen
    cases hend
    obtain ⟨hkey, ha₁⟩ := distinctKeys_of_load keyNode ha hfirst
    obtain ⟨hvalue, ha₂⟩ := distinctKeys_of_load valueNode ha₁ hsecond
    obtain ⟨hlater, ha₃⟩ := distinctKeys_of_loadEntries rest ha₂ hrest
    exact ⟨List.forall_mem_cons.mpr ⟨hkey, List.forall_mem_cons.mpr ⟨hvalue, hlater⟩⟩, ha₃⟩
end

lemma distinctKeys_of_loadAll {roots : List Node} (hload : loadAll roots = .ok values) :
    ∀ value ∈ values, DistinctKeys value := by
  induction roots generalizing values with
  | nil =>
    cases hload
    exact nofun
  | cons root rest ih =>
    obtain ⟨⟨value, a⟩, hfirst, hthen⟩ := bind_eq_ok_iff.mp hload
    obtain ⟨later, hrest, hend⟩ := bind_eq_ok_iff.mp hthen
    cases hend
    have hempty : Anchors.Distinct {} := List.forall_mem_nil _
    exact List.forall_mem_cons.mpr ⟨(distinctKeys_of_load root hempty hfirst).1, ih hrest⟩

/-- No document has a mapping with a key twice. -/
theorem distinctKeys_of_values {text : List Char} (hread : Yaml.values text = .ok values) :
    ∀ value ∈ values, DistinctKeys value := by
  obtain ⟨tokens, -, hthen⟩ := bind_eq_ok_iff.mp hread
  obtain ⟨roots, -, hload⟩ := bind_eq_ok_iff.mp hthen
  exact distinctKeys_of_loadAll (mapError_eq_ok_iff.mp hload)

end Provisioner.Yaml
