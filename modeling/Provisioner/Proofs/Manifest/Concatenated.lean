import Provisioner.Proofs.Json.Concatenated
import Provisioner.Proofs.Manifest.Documents
import Provisioner.Proofs.Text.Utf8
/-!
# Manifests one after the other

Two JSON manifests one after the other are the manifest of the resources of both, those of the first
one before those of the second one, with nothing between them but what either of them has around its
values.  If the second part is bad, so is the whole.
-/

namespace Provisioner.Manifest

open Text.Utf8 (Bytes)

/-! ## Manifests that open a JSON value -/

/-- White space of JSON: space, tab, line feed, carriage return. -/
def IsJsonSpace (b : UInt8) : Prop := b = 0x20 ∨ b = 0x09 ∨ b = 0x0A ∨ b = 0x0D

/-- The bytes are white space of JSON and then an opening brace or bracket, with anything after
it. -/
def OpensJson (bytes : Bytes) : Prop :=
  ∃ spaces first rest, bytes = spaces ++ first :: rest ∧ (∀ b ∈ spaces, IsJsonSpace b) ∧
    (first = 0x7B ∨ first = 0x5B)

variable {a b bytes : Bytes} {docs : List Json} {resources : List Resource}

lemma OpensJson.append (ha : OpensJson a) (b : Bytes) : OpensJson (a ++ b) := by
  obtain ⟨spaces, first, rest, rfl, hspaces, hfirst⟩ := ha
  exact ⟨spaces, first, rest ++ b, by simp, hspaces, hfirst⟩

lemma documents_of_opensJson (h : OpensJson bytes) : documents bytes = jsonDocuments bytes := by
  obtain ⟨spaces, first, rest, rfl, hspaces, hfirst⟩ := h
  have hbegins : BeginsWith first (spaces ++ first :: rest) := by
    refine ⟨⟨spaces, rest, rfl, fun b hb => ?_⟩, ?_⟩
    · obtain rfl | rfl | rfl | rfl := hspaces b hb <;> rfl
    · obtain rfl | rfl := hfirst <;> rfl
  unfold documents
  rw [find?_eq_some_iff.mpr hbegins]
  exact if_pos hfirst

/-- A text of such bytes opens a container or begins with white space. -/
lemma OpensJson.exists_opens {text : List Char} (h : OpensJson bytes)
    (hdecode : Text.Utf8.decode? bytes = some text) :
    ∃ c rest, text = c :: rest ∧ Json.State.Opens c := by
  obtain ⟨spaces, first, rest, rfl, hspaces, hfirst⟩ := h
  -- All of the bytes that it may begin with stand for themselves.
  have hhead : ∃ x more, spaces ++ first :: rest = x :: more ∧ x.toNat < 0x80 ∧
      Json.State.Opens (Char.ofNat x.toNat) := by
    cases spaces with
    | nil =>
      refine ⟨first, rest, rfl, ?_⟩
      obtain rfl | rfl := hfirst
      · exact ⟨by decide, .inr (.inr rfl)⟩
      · exact ⟨by decide, .inr (.inl rfl)⟩
    | cons space spaces =>
      refine ⟨space, spaces ++ first :: rest, rfl, ?_⟩
      obtain rfl | rfl | rfl | rfl := hspaces space (List.mem_cons_self ..) <;>
        exact ⟨by decide, .inl rfl⟩
  obtain ⟨x, more, heq, hone, hopens⟩ := hhead
  rw [heq, Text.Utf8.decode?.eq_def] at hdecode
  dsimp only at hdecode
  rw [if_pos hone] at hdecode
  obtain ⟨later, -, rfl⟩ := Option.map_eq_some_iff.mp hdecode
  exact ⟨_, later, rfl, hopens⟩

/-! ## Documents and resources -/

/-- The documents of both parts are those of the first and then those of the second. -/
lemma jsonDocuments_append (hb : OpensJson b) (ha : jsonDocuments a = .ok docs) :
    jsonDocuments (a ++ b) = (jsonDocuments b).map (docs ++ ·) := by
  obtain ⟨text, values, hdecode, hread, rfl⟩ := jsonDocuments_eq_ok_iff.mp ha
  unfold jsonDocuments
  rw [Text.Utf8.decode?_append hdecode]
  cases hlater : Text.Utf8.decode? b with
  | none => rfl
  | some later =>
    obtain ⟨c, rest, rfl, hopens⟩ := hb.exists_opens hlater
    dsimp only [Option.map_some]
    rw [Json.readAll_append hread hopens]
    cases Json.readAll (c :: rest) with
    | error cause => rfl
    | ok more => simp [Except.map, List.flatMap_def, Function.comp_def]

lemma resourcesOf_append {more : List Json} (h : resourcesOf docs = .ok resources) :
    resourcesOf (docs ++ more) = (resourcesOf more).map (resources ++ ·) := by
  induction docs generalizing resources with
  | nil =>
    cases h
    rw [List.nil_append]
    cases resourcesOf more <;> rfl
  | cons document rest ih =>
    obtain ⟨first, hfirst, hthen⟩ := bind_eq_ok_iff.mp h
    obtain ⟨later, hlater, hend⟩ := bind_eq_ok_iff.mp hthen
    cases hend
    rw [List.cons_append, resourcesOf, hfirst, ih hlater]
    cases resourcesOf more <;> rfl

/-- JSON manifests one after the other: they decode exactly when the second one does, to the
resources of the first and then those of the second. -/
theorem decode_append (ha : OpensJson a) (hb : OpensJson b) (hdecode : decode a = .ok resources)
    (all : List Resource) :
    decode (a ++ b) = .ok all ↔ ∃ more, decode b = .ok more ∧ all = resources ++ more := by
  obtain ⟨docs, hdocs, hresources⟩ := decode_eq_ok_iff.mp hdecode
  rw [documents_of_opensJson ha] at hdocs
  simp only [decode_eq_ok_iff, documents_of_opensJson hb, documents_of_opensJson (ha.append b),
    jsonDocuments_append hb hdocs, map_eq_ok_iff]
  constructor
  · rintro ⟨_, ⟨later, hlater, rfl⟩, hall⟩
    rw [resourcesOf_append hresources] at hall
    obtain ⟨more, hmore, rfl⟩ := map_eq_ok_iff.mp hall
    exact ⟨more, ⟨later, hlater, hmore⟩, rfl⟩
  · rintro ⟨more, ⟨later, hlater, hmore⟩, rfl⟩
    refine ⟨docs ++ later, ⟨later, hlater, rfl⟩, ?_⟩
    rw [resourcesOf_append hresources, hmore]
    rfl

/-- A resource of the core group that says no more than what it is. -/
def plainResource (kind name : String) : Resource where
  group := ""
  version := "v1"
  kind := kind
  name := name
  ns := none
  body := .object [("apiVersion", .string "v1"), ("kind", .string kind),
    ("metadata", .object [("name", .string name)])]

/-- An object and a null, which nothing follows. -/
def endingInNull : Bytes :=
  Text.Utf8.bytes ("\x7b\"apiVersion\":\"v1\",\"kind\":\"A\"," ++
    "\"metadata\":\x7b\"name\":\"a\"\x7d\x7dnull")

/-- An array of one object. -/
def openingArray : Bytes :=
  Text.Utf8.bytes ("[\x7b\"apiVersion\":\"v1\",\"kind\":\"B\"," ++
    "\"metadata\":\x7b\"name\":\"b\"\x7d\x7d]")

/-- A null may stand right before a bracket. -/
theorem decode_null_bracket :
    decode (endingInNull ++ openingArray) = .ok [plainResource "A" "a", plainResource "B" "b"] := by
  have hobject : OpensJson endingInNull :=
    ⟨[], 0x7B, endingInNull.tail, by decide +kernel, by simp, .inl rfl⟩
  have harray : OpensJson openingArray :=
    ⟨[], 0x5B, openingArray.tail, by decide +kernel, by simp, .inr rfl⟩
  have hfirst : decode endingInNull = .ok [plainResource "A" "a"] := by decide +kernel
  have hsecond : decode openingArray = .ok [plainResource "B" "b"] := by decide +kernel
  exact (decode_append hobject harray hfirst _).mpr ⟨_, hsecond, rfl⟩

end Provisioner.Manifest
