import Provisioner.Yaml.Record
import Provisioner.Proofs.Except
/-!
# What nodes stand for

The texts, truth values, numbers and records that the nodes of a document stand for, as relations,
and that the readers find exactly these.  A record is known by its fields: those of a known name,
each given once.
-/

namespace Provisioner.Yaml

variable {document node : Node} {text name : String} {names : List String}

/-! ## Scalars -/

/-- The node stands for a text. -/
def IsText (document node : Node) (text : String) : Prop :=
  ∃ p style, follow document node = .ok (.scalar p style text)

/-- The node stands for a truth value. -/
def IsTruth (document node : Node) (b : Bool) : Prop :=
  ∃ p style text, follow document node = .ok (.scalar p style text) ∧ truth? text = some b ∧
    mayMean "bool" p style = true

/-- The node stands for a natural number up to a limit. -/
def IsNatural (limit : Nat) (document node : Node) (n : Nat) : Prop :=
  ∃ p style text, follow document node = .ok (.scalar p style text) ∧
    natural? text.toList = some n ∧ mayMean "int" p style = true ∧ n ≤ limit

/-- A plain scalar means null: it spells null or nothing without a tag, or null with the tag of
null. -/
def MeansNull (p : Properties) (text : String) : Prop :=
  match p.tag with
  | none => text = "" ∨ isNullText text = true
  | some tag => tag.text = coreHandle ++ "null" ∧ isNullText text = true

/-- A plain scalar may be a text in the place of one or null. -/
def MeansText (p : Properties) (text : String) : Prop :=
  match p.tag with
  | none => ¬ (text = "" ∨ isNullText text = true)
  | some tag => tag.text ≠ coreHandle ++ "null"

/-- The node stands for a text or for null. -/
inductive IsTextOrNull (document node : Node) : Option String → Prop
  | null {p : Properties} {text : String}
      (scalar : follow document node = .ok (.scalar p .plain text)) (null : MeansNull p text) :
      IsTextOrNull document node none
  | text {p : Properties} {style : Style} {text : String}
      (scalar : follow document node = .ok (.scalar p style text))
      (other : style = .plain → MeansText p text) : IsTextOrNull document node (some text)

lemma text_eq_ok_iff : Reader.text document node = .ok text ↔ IsText document node text := by
  unfold Reader.text
  constructor
  · intro hread
    obtain ⟨value, hfollow, hread⟩ := bind_eq_ok_iff.mp hread
    cases value with
    | scalar p style found =>
      cases hread
      exact ⟨p, style, hfollow⟩
    | _ => cases hread
  · rintro ⟨p, style, hfollow⟩
    exact bind_eq_ok_iff.mpr ⟨_, hfollow, rfl⟩

lemma bool_eq_ok_iff {b : Bool} : Reader.bool document node = .ok b ↔ IsTruth document node b := by
  unfold Reader.bool
  constructor
  · intro hread
    obtain ⟨value, hfollow, hread⟩ := bind_eq_ok_iff.mp hread
    cases value with
    | scalar p style text =>
      dsimp only at hread
      split at hread
      · rename_i htruth hmay
        cases hread
        exact ⟨p, style, text, hfollow, htruth, hmay⟩
      · cases hread
    | _ => cases hread
  · rintro ⟨p, style, text, hfollow, htruth, hmay⟩
    refine bind_eq_ok_iff.mpr ⟨_, hfollow, ?_⟩
    dsimp only
    rw [htruth, hmay]

lemma natural_eq_ok_iff {limit n : Nat} :
    Reader.natural limit document node = .ok n ↔ IsNatural limit document node n := by
  unfold Reader.natural
  constructor
  · intro hread
    obtain ⟨value, hfollow, hread⟩ := bind_eq_ok_iff.mp hread
    cases value with
    | scalar p style text =>
      dsimp only at hread
      split at hread
      · rename_i hnatural hmay
        split at hread
        · rename_i hlimit
          cases hread
          exact ⟨p, style, text, hfollow, hnatural, hmay, hlimit⟩
        · cases hread
      · cases hread
    | _ => cases hread
  · rintro ⟨p, style, text, hfollow, hnatural, hmay, hlimit⟩
    refine bind_eq_ok_iff.mpr ⟨_, hfollow, ?_⟩
    dsimp only
    rw [hnatural, hmay]
    exact if_pos hlimit

/-! ## References -/

section Anchors

variable (name other : String)

lemma orElse_ne_alias {first second : Option Node} (hfirst : first ≠ some (.alias other))
    (hsecond : second ≠ some (.alias other)) : (first <|> second) ≠ some (.alias other) := by
  cases first with
  | none => exact hsecond
  | some value => exact hfirst

lemma ite_ne_alias {value : Node} {c : Prop} [Decidable c] (hvalue : value ≠ .alias other) :
    (if c then some value else none) ≠ some (.alias other) := by
  split
  · exact fun h => hvalue (Option.some.inj h)
  · exact fun h => by cases h

mutual
/-- No reference has an anchor. -/
theorem Node.anchored_ne_alias : ∀ node : Node, node.anchored? name ≠ some (.alias other)
  | .sequence p items => by
    rw [Node.anchored?]
    exact orElse_ne_alias other (anchoredItems_ne_alias items)
      (ite_ne_alias other fun h => by cases h)
  | .mapping p entries => by
    rw [Node.anchored?]
    exact orElse_ne_alias other (anchoredEntries_ne_alias entries)
      (ite_ne_alias other fun h => by cases h)
  | .scalar p style text => by
    rw [Node.anchored?]
    exact ite_ne_alias other fun h => by cases h
  | .alias _ => by
    rw [Node.anchored?]
    exact fun h => by cases h

theorem anchoredItems_ne_alias : ∀ items : List Node, anchoredItem? name items ≠ some (.alias other)
  | [] => by
    rw [anchoredItem?]
    exact fun h => by cases h
  | item :: rest => by
    rw [anchoredItem?]
    exact orElse_ne_alias other (anchoredItems_ne_alias rest) (Node.anchored_ne_alias item)

theorem anchoredEntries_ne_alias :
    ∀ entries : List (Node × Node), anchoredEntry? name entries ≠ some (.alias other)
  | [] => by
    rw [ anchoredEntry?]
    exact fun h => by cases h
  | (key, value) :: rest => by
    rw [ anchoredEntry?]
    exact orElse_ne_alias other (anchoredEntries_ne_alias rest)
      (orElse_ne_alias other (Node.anchored_ne_alias value) (Node.anchored_ne_alias key))
end

end Anchors

/-- What a node stands for is no reference. -/
lemma follow_ne_alias {value : Node} (hfollow : follow document node = .ok value) :
    value ≠ .alias name := by
  rintro rfl
  cases node with
  | «alias» target =>
    -- What has an anchor is looked for among nodes that stand for themselves.
    rw [follow] at hfollow
    cases hanchored : document.anchored? target with
    | none =>
      rw [hanchored] at hfollow
      cases hfollow
    | some found =>
      rw [hanchored] at hfollow
      cases hfollow
      exact Node.anchored_ne_alias _ _ _ hanchored
  | _ => cases hfollow

section Nullable

variable {p : Properties} {style : Style} {value : Option String}

/-- A scalar that is not plain is a text. -/
lemma nullable_text_marked (hstyle : style ≠ .plain)
    (hfollow : follow document node = .ok (.scalar p style text)) :
    Reader.nullable Reader.text document node = .ok (some text) := by
  unfold Reader.nullable
  rw [hfollow]
  cases style with
  | plain => exact absurd rfl hstyle
  | _ => rfl

/-- A plain scalar without a tag is null if it spells null or nothing, and a text otherwise. -/
lemma nullable_text_untagged (htag : p.tag = none)
    (hfollow : follow document node = .ok (.scalar p .plain text)) :
    Reader.nullable Reader.text document node =
      if text = "" ∨ isNullText text then .ok none else .ok (some text) := by
  obtain ⟨anchor, tag⟩ := p
  cases htag
  unfold Reader.nullable
  rw [hfollow]
  rfl

/-- A plain scalar with a tag is null if the tag is that of null, and spells it then; it is a text
otherwise. -/
lemma nullable_text_tagged {tag : Tag} (htag : p.tag = some tag)
    (hfollow : follow document node = .ok (.scalar p .plain text)) :
    Reader.nullable Reader.text document node =
      if tag.text = coreHandle ++ "null" then
        if isNullText text then .ok none else .error (.expected "null")
      else .ok (some text) := by
  obtain ⟨anchor, tag⟩ := p
  cases htag
  unfold Reader.nullable
  rw [hfollow]
  rfl

/-- A text or null in the place of a scalar. -/
lemma nullable_text_scalar (hfollow : follow document node = .ok (.scalar p style text)) :
    Reader.nullable Reader.text document node = .ok value ↔
      (style = .plain ∧ MeansNull p text ∧ value = none) ∨
        ((style = .plain → MeansText p text) ∧ value = some text) := by
  by_cases hplain : style = .plain
  · subst hplain
    unfold MeansNull MeansText
    cases htag : p.tag with
    | none =>
      rw [nullable_text_untagged htag hfollow]
      by_cases hnull : text = "" ∨ isNullText text = true
      · simp [hnull, @eq_comm _ value]
      · simp [hnull, @eq_comm _ value]
    | some tag =>
      rw [nullable_text_tagged htag hfollow]
      by_cases hcore : tag.text = coreHandle ++ "null"
      · by_cases hnull : isNullText text = true
        · simp [hcore, hnull, @eq_comm _ value]
        · simp [hcore, hnull]
      · simp [hcore, @eq_comm _ value]
  · rw [nullable_text_marked hplain hfollow]
    simp [hplain, @eq_comm _ value]

lemma nullable_text_eq_ok_iff :
    Reader.nullable Reader.text document node = .ok value ↔ IsTextOrNull document node value := by
  constructor
  · intro hread
    obtain ⟨found, hfollow, hfound⟩ := bind_eq_ok_iff.mp hread
    cases found with
    | scalar p style text =>
      rcases (nullable_text_scalar hfollow).mp hread with ⟨rfl, hnull, rfl⟩ | ⟨hother, rfl⟩
      · exact .null hfollow hnull
      · exact .text hfollow hother
    | «alias» target => exact absurd rfl (follow_ne_alias hfollow)
    | sequence | mapping => cases hfound
  · rintro (⟨hfollow, hnull⟩ | ⟨hfollow, hother⟩)
    · exact (nullable_text_scalar hfollow).mpr (.inl ⟨rfl, hnull, rfl⟩)
    · exact (nullable_text_scalar hfollow).mpr (.inr ⟨hother, rfl⟩)

end Nullable

/-! ## Fields -/

/-- The fields of known names among the entries of a mapping, each given once. -/
inductive Known (names : List String) (document : Node) :
    List (Node × Node) → List (String × Node) → Prop
  | nil : Known names document [] []
  | other {key value : Node} {name : String} {rest : List (Node × Node)}
      {given : List (String × Node)} (named : IsText document key name) (unknown : name ∉ names)
      (more : Known names document rest given) : Known names document ((key, value) :: rest) given
  | field {key value : Node} {name : String} {rest : List (Node × Node)}
      {given : List (String × Node)} (named : IsText document key name) (known : name ∈ names)
      (new : given.lookup name = none) (more : Known names document rest given) :
      Known names document ((key, value) :: rest) ((name, value) :: given)

/-- The node stands for a record with these fields of known names. -/
inductive IsRecord (names : List String) (document node : Node) : List (String × Node) → Prop
  | mapping {p : Properties} {entries : List (Node × Node)} {given : List (String × Node)}
      (mapping : follow document node = .ok (.mapping p entries))
      (known : Known names document entries given) : IsRecord names document node given
  | omitted {p : Properties} (scalar : follow document node = .ok (.scalar p .plain "")) :
      IsRecord names document node []

variable {given : List (String × Node)}

lemma known_eq_ok_iff {entries : List (Node × Node)} :
    Reader.fields.known names document entries = .ok given ↔ Known names document entries given := by
  induction entries generalizing given with
  | nil =>
    constructor
    · intro hread
      cases hread
      exact .nil
    · rintro ⟨⟩
      rfl
  | cons entry rest ih =>
    obtain ⟨key, value⟩ := entry
    rw [Reader.fields.known]
    constructor
    · intro hread
      obtain ⟨name, hname, hread⟩ := bind_eq_ok_iff.mp hread
      obtain ⟨others, hothers, hread⟩ := bind_eq_ok_iff.mp hread
      have hname := text_eq_ok_iff.mp hname
      have hothers := ih.mp hothers
      split at hread
      · rename_i hunknown
        cases hread
        exact .other hname (by simpa using hunknown) hothers
      · rename_i hknown
        split at hread
        · cases hread
        · rename_i hnew
          cases hread
          exact .field hname (by simpa using hknown)
            (Option.not_isSome_iff_eq_none.mp hnew) hothers
    · intro hknown
      cases hknown with
      | other named unknown more =>
        refine bind_eq_ok_iff.mpr ⟨_, text_eq_ok_iff.mpr named, ?_⟩
        refine bind_eq_ok_iff.mpr ⟨_, ih.mpr more, ?_⟩
        exact if_pos (by simpa using unknown)
      | field named known new more =>
        refine bind_eq_ok_iff.mpr ⟨_, text_eq_ok_iff.mpr named, ?_⟩
        refine bind_eq_ok_iff.mpr ⟨_, ih.mpr more, ?_⟩
        rw [if_neg (by simpa using known), if_neg (Option.not_isSome_iff_eq_none.mpr new)]
        rfl

lemma fields_eq_ok_iff :
    Reader.fields names document node = .ok given ↔ IsRecord names document node given := by
  unfold Reader.fields
  constructor
  · intro hread
    obtain ⟨value, hfollow, hread⟩ := bind_eq_ok_iff.mp hread
    split at hread
    · exact .mapping hfollow (known_eq_ok_iff.mp hread)
    · cases hread
      exact .omitted hfollow
    · cases hread
  · rintro (⟨hfollow, hknown⟩ | hfollow)
    · exact bind_eq_ok_iff.mpr ⟨_, hfollow, known_eq_ok_iff.mpr hknown⟩
    · exact bind_eq_ok_iff.mpr ⟨_, hfollow, rfl⟩

/-- The field of a name stands for this, if it is given. -/
def HasField {β : Type} (given : List (String × Node)) (document : Node) (name : String)
    (Stands : Node → Node → β → Prop) (b : Option β) : Prop :=
  Option.Rel (Stands document) (given.lookup name) b

variable {α β : Type} {read : Reader α} {a : α}

/-- A field is what its node stands for, and has a value of its own when it is left out. -/
lemma field_eq_ok_iff {Stands : Node → Node → β → Prop} {f : β → α}
    (hread : ∀ {node a}, read document node = .ok a ↔ ∃ b, Stands document node b ∧ a = f b)
    {value : α} :
    Reader.field given document name read value = .ok a ↔
      ∃ b, HasField given document name Stands b ∧ a = (b.map f).getD value := by
  unfold Reader.field HasField
  cases given.lookup name with
  | none =>
    constructor
    · intro ha
      cases ha
      exact ⟨none, .none, rfl⟩
    · rintro ⟨b, ⟨⟩, rfl⟩
      rfl
  | some node =>
    constructor
    · intro ha
      obtain ⟨b, hb, rfl⟩ := hread.mp ha
      exact ⟨some b, .some hb, rfl⟩
    · rintro ⟨b, hb, rfl⟩
      cases hb with
      | some hb => exact hread.mpr ⟨_, hb, rfl⟩

/-- A field that is read as its node says. -/
lemma field_eq_ok_iff_self {Stands : Node → Node → α → Prop}
    (hread : ∀ {node a}, read document node = .ok a ↔ Stands document node a) {value : α} :
    Reader.field given document name read value = .ok a ↔
      ∃ b, HasField given document name Stands b ∧ a = b.getD value := by
  have hself : ∀ {node a}, read document node = .ok a ↔ ∃ b, Stands document node b ∧ a = id b := by
    intro node a
    rw [hread]
    simp
  rw [field_eq_ok_iff hself]
  simp

lemma text_field_eq_ok_iff {value : String} :
    Reader.field given document name Reader.text value = .ok text ↔
      ∃ b, HasField given document name IsText b ∧ text = b.getD value :=
  field_eq_ok_iff_self text_eq_ok_iff

lemma bool_field_eq_ok_iff {value b : Bool} :
    Reader.field given document name Reader.bool value = .ok b ↔
      ∃ said, HasField given document name IsTruth said ∧ b = said.getD value :=
  field_eq_ok_iff_self bool_eq_ok_iff

lemma natural_field_eq_ok_iff {limit value n : Nat} :
    Reader.field given document name (Reader.natural limit) value = .ok n ↔
      ∃ said, HasField given document name (IsNatural limit) said ∧ n = said.getD value :=
  field_eq_ok_iff_self natural_eq_ok_iff

/-! ## Documents -/

/-- The one document of a text, with numbers for its anchors; a text without documents has one that
is left out. -/
inductive IsDocument (text : List Char) : Node → Prop
  | omitted {tokens : List Token} (scanned : Scan11.tokens text = .ok tokens)
      (parsed : parse .v11 tokens = .ok []) : IsDocument text .omitted
  | single {tokens : List Token} {root document : Node} {anchors : AnchorNumbers}
      (scanned : Scan11.tokens text = .ok tokens) (parsed : parse .v11 tokens = .ok [root])
      (numbered : root.number {} = .ok (document, anchors)) : IsDocument text document

lemma readRecord_eq_ok_iff {α : Type} {read : Reader α} {text : List Char} {a : α} :
    readRecord read text = .ok a ↔
      ∃ document, IsDocument text document ∧ read document document = .ok a := by
  unfold readRecord
  constructor
  · intro hread
    obtain ⟨tokens, hscanned, hread⟩ := bind_eq_ok_iff.mp hread
    obtain ⟨roots, hparsed, hread⟩ := bind_eq_ok_iff.mp hread
    have hscanned := mapError_eq_ok_iff.mp hscanned
    have hparsed := mapError_eq_ok_iff.mp hparsed
    split at hread
    · exact ⟨.omitted, .omitted hscanned hparsed, hread⟩
    · obtain ⟨⟨document, anchors⟩, hnumbered, hread⟩ := bind_eq_ok_iff.mp hread
      exact ⟨document, .single hscanned hparsed hnumbered, hread⟩
    · cases hread
  · rintro ⟨document, hdocument, hread⟩
    cases hdocument with
    | omitted scanned parsed =>
      refine bind_eq_ok_iff.mpr ⟨_, mapError_eq_ok_iff.mpr scanned, ?_⟩
      exact bind_eq_ok_iff.mpr ⟨_, mapError_eq_ok_iff.mpr parsed, hread⟩
    | single scanned parsed numbered =>
      refine bind_eq_ok_iff.mpr ⟨_, mapError_eq_ok_iff.mpr scanned, ?_⟩
      refine bind_eq_ok_iff.mpr ⟨_, mapError_eq_ok_iff.mpr parsed, ?_⟩
      exact bind_eq_ok_iff.mpr ⟨_, numbered, hread⟩

end Provisioner.Yaml
