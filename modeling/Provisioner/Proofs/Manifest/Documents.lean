import Mathlib.Data.List.Forall2
import Provisioner.Manifest.Decode
import Provisioner.Proofs.Except
/-!
# What a manifest holds

A manifest is read in one of two formats, which its first byte that is not white space tells, and
each format yields documents.  `Yields` says which documents bytes hold, `Resource.Describes` which
resource a document is, and `Resource.Lacks` what it does not say of itself when it is none.  A
manifest is decoded exactly when it holds documents and each of them is a resource, and the error is
about the first one that is not.
-/

namespace Provisioner

open Text.Utf8 (Bytes)

namespace Resource

/-! ## What a document says -/

/-- An API version is a group and a version with a slash between them, the first one in it, or the
version of the core group, which has no slash. -/
inductive Splits (apiVersion : String) : String → String → Prop
  | grouped {group version : String} (joined : apiVersion = group ++ "/" ++ version)
      (first : '/' ∉ group.toList) : Splits apiVersion group version
  | core (plain : '/' ∉ apiVersion.toList) : Splits apiVersion "" apiVersion

/-- The document is an object that says of itself what the resource is kept as. -/
structure Describes (document : Json) (r : Resource) : Prop where
  object : ∃ members, document = .object members
  groupVersion : ∃ apiVersion, textAt? ["apiVersion"] document = some apiVersion ∧
    Splits apiVersion r.group r.version
  kind : textAt? ["kind"] document = some r.kind
  name : textAt? ["metadata", "name"] document = some r.name
  ns : ∀ ns, r.ns = some ns ↔ textAt? ["metadata", "namespace"] document = some ns ∧ ns ≠ ""
  body : r.body = document

/-- The document is an object with a text for its API version, its kind and its name. -/
structure Identified (document : Json) : Prop where
  object : ∃ members, document = .object members
  apiVersion : ∃ text, textAt? ["apiVersion"] document = some text
  kind : ∃ text, textAt? ["kind"] document = some text
  name : ∃ text, textAt? ["metadata", "name"] document = some text

/-- The first text that is missing in a document, of its API version, its kind and its name, and
how that is reported. -/
inductive Lacks (document : Json) : ResourceError → String → Prop
  | apiVersion (missing : textAt? ["apiVersion"] document = none) :
      Lacks document .missingApiVersion "document missing apiVersion"
  | kind {apiVersion : String} (versioned : textAt? ["apiVersion"] document = some apiVersion)
      (missing : textAt? ["kind"] document = none) :
      Lacks document .missingKind "document missing kind"
  | name {apiVersion kind : String} (versioned : textAt? ["apiVersion"] document = some apiVersion)
      (ofKind : textAt? ["kind"] document = some kind)
      (missing : textAt? ["metadata", "name"] document = none) :
      Lacks document (.missingName kind) (kind ++ " missing metadata.name")

variable {document : Json} {r : Resource}

/-- Only an object has a text under a path of names. -/
lemma exists_object_of_textAt? {name text : String} {path : List String}
    (htext : textAt? (name :: path) document = some text) :
    ∃ members, document = .object members := by
  cases document with
  | object members => exact ⟨members, rfl⟩
  | _ => cases htext

lemma splits_iff {apiVersion group version : String} :
    Splits apiVersion group version ↔ splitApiVersion apiVersion = (group, version) := by
  constructor
  · intro hsplits
    cases hsplits with
    | grouped joined first =>
      have htext : apiVersion.toList = group.toList ++ '/' :: version.toList := by
        rw [joined, String.toList_append, String.toList_append, List.append_assoc]
        rfl
      rw [splitApiVersion, Text.cutFirst, htext, Text.splitFirst_append _ first]
      simp
    | core plain =>
      rw [splitApiVersion, Text.cutFirst, Text.splitFirst_eq_none.mpr plain]
      rfl
  · intro hsplit
    unfold splitApiVersion Text.cutFirst at hsplit
    cases hcut : Text.splitFirst '/' apiVersion.toList with
    | none =>
      rw [hcut] at hsplit
      obtain ⟨rfl, rfl⟩ := Prod.mk.inj hsplit
      exact .core (Text.splitFirst_eq_none.mp hcut)
    | some parts =>
      obtain ⟨left, right⟩ := parts
      rw [hcut] at hsplit
      obtain ⟨rfl, rfl⟩ := Prod.mk.inj hsplit
      obtain ⟨htext, hfirst⟩ := Text.splitFirst_eq_some hcut
      refine .grouped ?_ (by simpa using hfirst)
      rw [← String.toList_inj, htext]
      simp

/-- A namespace that is empty is none. -/
lemma filter_ns_iff {found ns : Option String} :
    ns = found.filter (fun ns => ns != "") ↔ ∀ x, ns = some x ↔ found = some x ∧ x ≠ "" := by
  have hfilter : ∀ x, found.filter (fun ns => ns != "") = some x ↔ found = some x ∧ x ≠ "" := by
    intro x
    simp [Option.filter_eq_some_iff]
  constructor
  · rintro rfl
    exact hfilter
  · intro hns
    ext x
    rw [hns, hfilter]

/-! ## Reading a document -/

lemma ofJson_eq_ok_iff : Resource.ofJson document = .ok r ↔ Describes document r := by
  obtain ⟨group, version, kind, name, ns, body⟩ := r
  unfold Resource.ofJson
  constructor
  · intro hread
    split at hread
    case h_1 => cases hread
    case h_2 apiVersion hversion =>
      split at hread
      case h_1 => cases hread
      case h_2 found hkind =>
        split at hread
        case h_1 => cases hread
        case h_2 called hname =>
          obtain ⟨rfl, rfl, rfl, rfl, rfl, rfl⟩ := Resource.mk.inj (Except.ok.inj hread)
          exact ⟨exists_object_of_textAt? hversion, ⟨apiVersion, hversion, splits_iff.mpr rfl⟩,
            hkind, hname, filter_ns_iff.mp rfl, rfl⟩
  · rintro ⟨-, ⟨apiVersion, hversion, hsplits⟩, hkind, hname, hns, rfl⟩
    have hfilter := filter_ns_iff.mpr hns
    simp only [hversion, hkind, hname, splits_iff.mp hsplits, ← hfilter]

/-- A document is that of a resource exactly when it is identified. -/
lemma exists_describes_iff : (∃ r, Describes document r) ↔ Identified document := by
  constructor
  · rintro ⟨r, object, ⟨apiVersion, hversion, -⟩, hkind, hname, -, -⟩
    exact ⟨object, ⟨apiVersion, hversion⟩, ⟨r.kind, hkind⟩, ⟨r.name, hname⟩⟩
  · rintro ⟨-, ⟨apiVersion, hversion⟩, ⟨kind, hkind⟩, ⟨name, hname⟩⟩
    simp only [← ofJson_eq_ok_iff]
    unfold Resource.ofJson
    rw [hversion, hkind, hname]
    exact ⟨_, rfl⟩

lemma ofJson_eq_error_iff {e : ResourceError} :
    Resource.ofJson document = .error e ↔ Lacks document e e.message := by
  unfold Resource.ofJson
  constructor
  · intro hread
    split at hread
    case h_1 hversion =>
      cases hread
      exact .apiVersion hversion
    case h_2 apiVersion hversion =>
      split at hread
      case h_1 hkind =>
        cases hread
        exact .kind hversion hkind
      case h_2 kind hkind =>
        split at hread
        case h_1 hname =>
          cases hread
          exact .name hversion hkind hname
        case h_2 => cases hread
  · intro hlacks
    cases hlacks with
    | apiVersion missing => rw [missing]
    | kind versioned missing => rw [versioned, missing]
    | name versioned ofKind missing => rw [versioned, ofKind, missing]

end Resource

namespace Manifest

open Resource (Describes Identified Lacks)

/-! ## The documents of bytes -/

/-- The first byte that is not white space. -/
structure BeginsWith (first : UInt8) (bytes : Bytes) : Prop where
  found : ∃ spaces rest, bytes = spaces ++ first :: rest ∧ ∀ b ∈ spaces, isSpace b = true
  solid : isSpace first = false

/-- What a value of a JSON manifest contributes to its documents. -/
inductive Contributes : Json → List Json → Prop
  | items (items : List Json) : Contributes (.array items) items
  | nothing : Contributes .null []
  | itself {value : Json} (single : value ≠ .null) (whole : ∀ items, value ≠ .array items) :
      Contributes value [value]

/-- The documents that bytes hold: none if they are all white space; those that JSON values
contribute, one after the other, if the bytes begin with an opening brace or bracket; and otherwise
the YAML documents of a text, but for those that are null. -/
inductive Yields (bytes : Bytes) : List Json → Prop
  | blank (spaces : ∀ b ∈ bytes, isSpace b = true) : Yields bytes []
  | json {first : UInt8} {text : List Char} {values : List Json} {parts : List (List Json)}
      (begins : BeginsWith first bytes) (opens : first = 0x7B ∨ first = 0x5B)
      (decoded : Text.Utf8.decode? bytes = some text) (read : Json.readAll text = .ok values)
      (contributed : List.Forall₂ Contributes (values.map Json.canonical) parts) :
      Yields bytes parts.flatten
  | yaml {first : UInt8} {text : List Char} {values : List Yaml.Value} {converted : List Json}
      (begins : BeginsWith first bytes) (other : first ≠ 0x7B ∧ first ≠ 0x5B)
      (decoded : Text.Utf8.decode? bytes = some text) (read : Yaml.values text = .ok values)
      (converts : List.Forall₂ (fun value json => value.toJson = .ok json) values converted) :
      Yields bytes (converted.filter (· ≠ .null))

variable {bytes : Bytes} {docs : List Json} {resources : List Resource}

lemma find?_eq_some_iff {first : UInt8} :
    (bytes.find? fun b => !isSpace b) = some first ↔ BeginsWith first bytes := by
  rw [List.find?_eq_some_iff_append]
  constructor
  · rintro ⟨hsolid, spaces, rest, heq, hspaces⟩
    exact ⟨⟨spaces, rest, heq, fun b hb => by simpa using hspaces b hb⟩, by simpa using hsolid⟩
  · rintro ⟨⟨spaces, rest, heq, hspaces⟩, hsolid⟩
    exact ⟨by simpa using hsolid, spaces, rest, heq, fun b hb => by simpa using hspaces b hb⟩

lemma find?_eq_none_iff :
    (bytes.find? fun b => !isSpace b) = none ↔ ∀ b ∈ bytes, isSpace b = true := by
  simp

lemma contributes_iff {value : Json} {part : List Json} :
    Contributes value part ↔ flatten value = part := by
  constructor
  · intro hvalue
    cases hvalue with
    | items items => rfl
    | nothing => rfl
    | itself single whole =>
      cases value with
      | null => exact absurd rfl single
      | array items => exact absurd rfl (whole items)
      | _ => rfl
  · rintro rfl
    cases value with
    | null => exact .nothing
    | array items => exact .items items
    | _ => exact .itself (by simp) (by simp)

lemma forall₂_contributes_iff {values : List Json} {parts : List (List Json)} :
    List.Forall₂ Contributes values parts ↔ values.map flatten = parts := by
  have hrelation : Contributes = fun value part => flatten value = part :=
    funext fun value => funext fun part => propext contributes_iff
  rw [hrelation, ← List.forall₂_map_left_iff (R := (· = ·)), List.forall₂_eq_eq_eq]

/-- YAML values are converted exactly when each of them is, and then those that become null are
left out. -/
lemma convertAll_eq_ok_iff {values : List Yaml.Value} :
    Yaml.convertAll values = .ok docs ↔
      ∃ converted, List.Forall₂ (fun value json => value.toJson = .ok json) values converted ∧
        docs = converted.filter (· ≠ .null) := by
  induction values generalizing docs with
  | nil =>
    constructor
    · intro h
      cases h
      exact ⟨[], .nil, rfl⟩
    · rintro ⟨converted, hall, rfl⟩
      cases hall
      rfl
  | cons value rest ih =>
    unfold Yaml.convertAll
    constructor
    · intro h
      obtain ⟨first, hfirst, hthen⟩ := bind_eq_ok_iff.mp h
      obtain ⟨later, hlater, hend⟩ := bind_eq_ok_iff.mp hthen
      obtain ⟨converted, hall, rfl⟩ := ih.mp hlater
      refine ⟨first :: converted, .cons hfirst hall, ?_⟩
      cases hend
      by_cases hnull : first = .null <;> simp [hnull]
    · rintro ⟨converted, hall, rfl⟩
      cases hall with
      | @cons _ first _ converted hfirst hrest =>
        refine bind_eq_ok_iff.mpr ⟨first, hfirst, bind_eq_ok_iff.mpr
          ⟨_, ih.mpr ⟨converted, hrest, rfl⟩, ?_⟩⟩
        by_cases hnull : first = .null <;> simp [hnull, pure, Except.pure]

lemma jsonDocuments_eq_ok_iff :
    jsonDocuments bytes = .ok docs ↔
      ∃ text values, Text.Utf8.decode? bytes = some text ∧ Json.readAll text = .ok values ∧
        docs = ((values.map Json.canonical).map flatten).flatten := by
  unfold jsonDocuments
  cases Text.Utf8.decode? bytes with
  | none => simp
  | some text =>
    dsimp only
    cases hread : Json.readAll text with
    | error cause => simp [hread]
    | ok values => simp [hread, List.flatMap_def, Function.comp_def, eq_comm]

lemma yamlDocuments_eq_ok_iff :
    yamlDocuments bytes = .ok docs ↔
      ∃ text values converted, Text.Utf8.decode? bytes = some text ∧
        Yaml.values text = .ok values ∧
        List.Forall₂ (fun value json => value.toJson = .ok json) values converted ∧
        docs = converted.filter (· ≠ .null) := by
  unfold yamlDocuments
  cases Text.Utf8.decode? bytes with
  | none => simp
  | some text =>
    dsimp only
    rw [mapError_eq_ok_iff, Yaml.documentsOf]
    change (Yaml.values text).bind _ = _ ↔ _
    rw [bind_eq_ok_iff]
    simp only [mapError_eq_ok_iff, convertAll_eq_ok_iff, Option.some.injEq, exists_and_left,
      exists_eq_left']

/-- A manifest has documents exactly when its bytes hold them. -/
lemma documents_eq_ok_iff : documents bytes = .ok docs ↔ Yields bytes docs := by
  unfold documents
  constructor
  · intro h
    split at h
    case h_1 hfind =>
      cases h
      exact .blank (find?_eq_none_iff.mp hfind)
    case h_2 first hfind =>
      have hbegins := find?_eq_some_iff.mp hfind
      split at h
      · rename_i hopens
        obtain ⟨text, values, hdecode, hread, rfl⟩ := jsonDocuments_eq_ok_iff.mp h
        exact .json hbegins hopens hdecode hread (forall₂_contributes_iff.mpr rfl)
      · rename_i hother
        obtain ⟨text, values, converted, hdecode, hread, hall, rfl⟩ := yamlDocuments_eq_ok_iff.mp h
        exact .yaml hbegins (not_or.mp hother) hdecode hread hall
  · intro hyields
    cases hyields with
    | blank spaces => rw [find?_eq_none_iff.mpr spaces]
    | json begins opens decoded read contributed =>
      rw [find?_eq_some_iff.mpr begins]
      dsimp only
      rw [if_pos opens, jsonDocuments_eq_ok_iff]
      exact ⟨_, _, decoded, read, by rw [forall₂_contributes_iff.mp contributed]⟩
    | yaml begins other decoded read converts =>
      rw [find?_eq_some_iff.mpr begins]
      dsimp only
      rw [if_neg (not_or.mpr other), yamlDocuments_eq_ok_iff]
      exact ⟨_, _, _, decoded, read, converts, rfl⟩

/-- Bytes hold no other documents. -/
lemma Yields.eq {others : List Json} (hdocs : Yields bytes docs) (hothers : Yields bytes others) :
    docs = others := by
  have h := (documents_eq_ok_iff.mpr hdocs).symm.trans (documents_eq_ok_iff.mpr hothers)
  exact Except.ok.inj h

/-- Bytes that hold no documents are not blamed on one. -/
lemma documents_ne_resource {e : ManifestError} (h : documents bytes = .error e)
    (cause : ResourceError) : e ≠ .resource cause := by
  rintro rfl
  unfold documents at h
  split at h
  case h_1 => cases h
  case h_2 first hfind =>
    split at h
    · unfold jsonDocuments at h
      split at h
      case h_1 => cases h
      case h_2 => split at h <;> cases h
    · unfold yamlDocuments at h
      split at h
      case h_1 => cases h
      case h_2 text hdecode =>
        cases hdocs : Yaml.documentsOf text with
        | ok docs => simp [hdocs, Except.mapError] at h
        | error cause => simp [hdocs, Except.mapError] at h

/-! ## The resources of documents -/

/-- Documents are those of some resources exactly when each of them is identified. -/
lemma exists_forall₂_describes_iff :
    (∃ resources, List.Forall₂ Describes docs resources) ↔
      ∀ document ∈ docs, Identified document := by
  induction docs with
  | nil => exact ⟨fun _ => by simp, fun _ => ⟨[], .nil⟩⟩
  | cons document rest ih =>
    rw [List.forall_mem_cons, ← ih, ← Resource.exists_describes_iff]
    constructor
    · rintro ⟨_, hall⟩
      cases hall with
      | cons hfirst hrest => exact ⟨⟨_, hfirst⟩, ⟨_, hrest⟩⟩
    · rintro ⟨⟨r, hfirst⟩, ⟨resources, hrest⟩⟩
      exact ⟨r :: resources, .cons hfirst hrest⟩

lemma resourcesOf_cons (document : Json) (rest : List Json) :
    resourcesOf (document :: rest) =
      (Resource.ofJson document).bind fun first => (resourcesOf rest).map (first :: ·) := by
  rw [resourcesOf]
  cases Resource.ofJson document with
  | error e => rfl
  | ok first => cases resourcesOf rest <;> rfl

lemma resourcesOf_eq_ok_iff :
    resourcesOf docs = .ok resources ↔ List.Forall₂ Describes docs resources := by
  induction docs generalizing resources with
  | nil =>
    constructor
    · intro h
      cases h
      exact .nil
    · intro hall
      cases hall
      rfl
  | cons document rest ih =>
    simp only [resourcesOf_cons, bind_eq_ok_iff, map_eq_ok_iff, Resource.ofJson_eq_ok_iff, ih]
    constructor
    · rintro ⟨first, hfirst, later, hlater, rfl⟩
      exact .cons hfirst hlater
    · intro hall
      cases hall with
      | cons hfirst hrest => exact ⟨_, hfirst, _, hrest, rfl⟩

/-- The first document that is no resource, with all those before it resources, and what is
reported of it. -/
def FirstLacking (docs : List Json) (cause : ResourceError) (text : String) : Prop :=
  ∃ before document after, docs = before ++ document :: after ∧
    (∀ d ∈ before, ∃ r, Describes d r) ∧ Lacks document cause text

lemma not_firstLacking_nil {cause : ResourceError} {text : String} :
    ¬ FirstLacking [] cause text := by
  rintro ⟨before, document, after, heq, -⟩
  exact absurd heq (by simp)

/-- It is the first document, or the first one is a resource and it is among the rest. -/
lemma firstLacking_cons_iff {document : Json} {rest : List Json} {cause : ResourceError}
    {text : String} :
    FirstLacking (document :: rest) cause text ↔
      Lacks document cause text ∨ (∃ r, Describes document r) ∧ FirstLacking rest cause text := by
  constructor
  · rintro ⟨before, lacking, after, heq, hbefore, hlacks⟩
    cases before with
    | nil =>
      obtain ⟨rfl, rfl⟩ := List.cons.inj heq
      exact .inl hlacks
    | cons first before =>
      obtain ⟨rfl, rfl⟩ := List.cons.inj heq
      obtain ⟨hfirst, hbefore⟩ := List.forall_mem_cons.mp hbefore
      exact .inr ⟨hfirst, before, lacking, after, rfl, hbefore, hlacks⟩
  · rintro (hlacks | ⟨hfirst, before, lacking, after, rfl, hbefore, hlacks⟩)
    · exact ⟨[], document, rest, rfl, by simp, hlacks⟩
    · exact ⟨document :: before, lacking, after, rfl,
        List.forall_mem_cons.mpr ⟨hfirst, hbefore⟩, hlacks⟩

lemma resourcesOf_eq_error_iff {cause : ResourceError} :
    resourcesOf docs = .error cause ↔ FirstLacking docs cause cause.message := by
  induction docs with
  | nil => exact iff_of_false (fun h => by cases h) not_firstLacking_nil
  | cons document rest ih =>
    rw [resourcesOf_cons, bind_eq_error_iff, firstLacking_cons_iff, ← ih,
      Resource.ofJson_eq_error_iff]
    simp only [map_eq_error_iff, Resource.ofJson_eq_ok_iff, exists_and_right]

/-! ## The resources of bytes -/

/-- Decoding is about the documents of the bytes, once there are any. -/
lemma decode_of_yields (hyields : Yields bytes docs) :
    decode bytes = (resourcesOf docs).mapError .resource := by
  unfold decode
  rw [documents_eq_ok_iff.mpr hyields]
  rfl

/-- The resources of a manifest are those of its documents. -/
lemma decode_eq_ok_iff :
    decode bytes = .ok resources ↔
      ∃ docs, documents bytes = .ok docs ∧ resourcesOf docs = .ok resources := by
  unfold decode
  change (documents bytes).bind _ = _ ↔ _
  simp only [bind_eq_ok_iff, mapError_eq_ok_iff]

/-- Each resource of a manifest is described by the document that it keeps. -/
lemma describes_body_of_mem {r : Resource} (hdecode : decode bytes = .ok resources)
    (hr : r ∈ resources) : Describes r.body r := by
  obtain ⟨docs, -, hresources⟩ := decode_eq_ok_iff.mp hdecode
  have hall := resourcesOf_eq_ok_iff.mp hresources
  obtain ⟨i, hi, rfl⟩ := List.getElem_of_mem hr
  have hdescribes := hall.get (by rw [hall.length_eq]; exact hi) hi
  rwa [← hdescribes.body] at hdescribes

/-- How a manifest decodes: the documents that its bytes hold decide it, and bytes that hold none are
no manifest at all. -/
theorem decode_documents (bytes : Bytes) :
    (∀ docs, Yields bytes docs →
      (∀ others, Yields bytes others → others = docs) ∧
      (∀ resources, decode bytes = .ok resources ↔ List.Forall₂ Describes docs resources) ∧
      ((∃ resources, decode bytes = .ok resources) ↔ ∀ document ∈ docs, Identified document) ∧
      ∀ e, decode bytes = .error e ↔
        ∃ cause, e = .resource cause ∧ FirstLacking docs cause e.message) ∧
    ((∀ docs, ¬Yields bytes docs) →
      ∃ e, decode bytes = .error e ∧ ∀ cause, e ≠ .resource cause) := by
  refine ⟨fun docs hyields => ?_, fun hnone => ?_⟩
  · rw [decode_of_yields hyields]
    refine ⟨fun others hothers => hothers.eq hyields, fun resources => ?_, ?_, fun e => ?_⟩
    · rw [mapError_eq_ok_iff, resourcesOf_eq_ok_iff]
    · simp only [mapError_eq_ok_iff, resourcesOf_eq_ok_iff]
      exact exists_forall₂_describes_iff
    · cases hresources : resourcesOf docs with
      | ok resources =>
        refine ⟨fun h => (by cases h), ?_⟩
        rintro ⟨cause, rfl, hfirst⟩
        rw [resourcesOf_eq_error_iff.mpr hfirst] at hresources
        cases hresources
      | error cause =>
        constructor
        · intro h
          cases h
          exact ⟨cause, rfl, resourcesOf_eq_error_iff.mp hresources⟩
        · rintro ⟨cause', rfl, hfirst⟩
          rw [resourcesOf_eq_error_iff.mpr hfirst] at hresources
          cases hresources
          rfl
  · cases hdocs : documents bytes with
    | ok docs => exact absurd (documents_eq_ok_iff.mp hdocs) (hnone docs)
    | error e =>
      refine ⟨e, ?_, documents_ne_resource hdocs⟩
      unfold decode
      rw [hdocs]
      rfl

/-- An object that is identified, followed by an array with an item that does not name its object. -/
def unnamedSecond : Bytes :=
  Text.Utf8.bytes ("\x7b\"apiVersion\":\"v1\",\"kind\":\"A\"," ++
    "\"metadata\":\x7b\"name\":\"a\"\x7d\x7d[\x7b\"apiVersion\":\"apps/v1\",\"kind\":\"B\"\x7d]")

theorem decode_unnamedSecond :
    decode unnamedSecond = .error (.resource (.missingName "B")) := by
  have hyields : Yields unnamedSecond [
      .object [("apiVersion", .string "v1"), ("kind", .string "A"),
        ("metadata", .object [("name", .string "a")])],
      .object [("apiVersion", .string "apps/v1"), ("kind", .string "B")]] :=
    documents_eq_ok_iff.mp (by decide +kernel)
  obtain ⟨-, -, -, herror⟩ := (decode_documents unnamedSecond).1 _ hyields
  refine (herror _).mpr ⟨_, rfl, [_], _, [], rfl, ?_, ?_⟩
  · exact List.forall_mem_singleton.mpr ⟨_, Resource.ofJson_eq_ok_iff.mp rfl⟩
  · have hversion : Resource.textAt? ["apiVersion"]
        (.object [("apiVersion", .string "apps/v1"), ("kind", .string "B")]) = some "apps/v1" := rfl
    exact .name hversion rfl rfl

end Manifest

end Provisioner
