/-!
# Searching and cutting text

Where a character first or last occurs, what stands on its two sides, and whether a text occurs
inside another.  The functions work on lists of characters, where they are short recursions; the
versions on `String` below them are what the rest of the library calls.
-/

namespace Provisioner.Text

/-- What stands before and after the first `c`, if there is one. -/
def splitFirst (c : Char) : List Char → Option (List Char × List Char)
  | [] => none
  | d :: rest =>
    if d = c then some ([], rest)
    else (splitFirst c rest).map fun (left, right) => (d :: left, right)

/-- What stands before and after the last `c`, if there is one. -/
def splitLast (c : Char) : List Char → Option (List Char × List Char)
  | [] => none
  | d :: rest =>
    match splitLast c rest with
    | some (left, right) => some (d :: left, right)
    | none => if d = c then some ([], rest) else none

/-- Whether `part` occurs somewhere in a text. -/
def occursIn (part : List Char) : List Char → Bool
  | [] => part.isEmpty
  | c :: rest => part.isPrefixOf (c :: rest) || occursIn part rest

/-- The longest end of a text that does not start with `c`. -/
def dropLeading (c : Char) : List Char → List Char
  | [] => []
  | d :: rest => if d = c then dropLeading c rest else d :: rest

@[simp] theorem splitFirst_nil (c : Char) : splitFirst c [] = none := rfl

@[simp] theorem splitFirst_cons_self (c : Char) (rest : List Char) :
    splitFirst c (c :: rest) = some ([], rest) := by simp [splitFirst]

/-- A cut at the first `c` loses nothing but that `c`, and none is left in front of it. -/
theorem splitFirst_eq_some {c : Char} {text left right : List Char}
    (h : splitFirst c text = some (left, right)) : text = left ++ c :: right ∧ c ∉ left := by
  induction text generalizing left with
  | nil => simp [splitFirst] at h
  | cons d rest ih =>
    by_cases hd : d = c
    · simp only [splitFirst, hd, if_true, Option.some.injEq, Prod.mk.injEq] at h
      obtain ⟨rfl, rfl⟩ := h
      simp [hd]
    · simp only [splitFirst, hd, if_false, Option.map_eq_some_iff, Prod.mk.injEq] at h
      obtain ⟨⟨l, r⟩, hlr, rfl, rfl⟩ := h
      obtain ⟨rfl, hl⟩ := ih hlr
      exact ⟨by simp, by simp [hl, Ne.symm hd]⟩

/-- There is no cut exactly when the character does not occur. -/
theorem splitFirst_eq_none {c : Char} {text : List Char} :
    splitFirst c text = none ↔ c ∉ text := by
  induction text with
  | nil => simp
  | cons d rest ih =>
    by_cases hd : d = c
    · simp [splitFirst, hd]
    · simp [splitFirst, hd, ih, Ne.symm hd]

/-- A text is cut at a character where what stands before has none. -/
theorem splitFirst_append {c : Char} {left : List Char} (right : List Char) (hc : c ∉ left) :
    splitFirst c (left ++ c :: right) = some (left, right) := by
  induction left with
  | nil => simp
  | cons d left ih =>
    rw [List.mem_cons, not_or] at hc
    simp [splitFirst, ih hc.2, Ne.symm hc.1]

/-- There is no last cut exactly when the character does not occur. -/
theorem splitLast_eq_none {c : Char} {text : List Char} : splitLast c text = none ↔ c ∉ text := by
  induction text with
  | nil => simp [splitLast]
  | cons d rest ih =>
    rw [splitLast, List.mem_cons, not_or, ← ih]
    cases splitLast c rest <;> simp [eq_comm]

/-- A text is cut last at a character where what stands after has none. -/
theorem splitLast_append {c : Char} (left : List Char) {right : List Char} (hc : c ∉ right) :
    splitLast c (left ++ c :: right) = some (left, right) := by
  induction left with
  | nil => simp [splitLast, splitLast_eq_none.mpr hc]
  | cons d left ih => simp [splitLast, ih]

/-- A text is searched for a part at each of its places in turn. -/
theorem occursIn_iff {part text : List Char} : occursIn part text = true ↔ part <:+: text := by
  induction text with
  | nil => simp [occursIn]
  | cons c rest ih =>
    rw [occursIn, Bool.or_eq_true, List.isPrefixOf_iff_prefix, ih, List.infix_cons_iff]

theorem dropLeading_replicate (c : Char) (k : Nat) (rest : List Char) :
    dropLeading c (List.replicate k c ++ rest) = dropLeading c rest := by
  induction k with
  | zero => rfl
  | succ k ih => rw [List.replicate_succ, List.cons_append, dropLeading, if_pos rfl, ih]

theorem dropLeading_eq_self {c : Char} {text : List Char} (hfirst : text.head? ≠ some c) :
    dropLeading c text = text := by
  cases text with
  | nil => rfl
  | cons d rest =>
    have hd : d ≠ c := fun heq => hfirst (congrArg some heq)
    rw [dropLeading, if_neg hd]

/-- Before and after the first `c` in a text. -/
def cutFirst (c : Char) (s : String) : Option (String × String) :=
  (splitFirst c s.toList).map fun (left, right) => (String.ofList left, String.ofList right)

/-- Before and after the last `c` in a text. -/
def cutLast (c : Char) (s : String) : Option (String × String) :=
  (splitLast c s.toList).map fun (left, right) => (String.ofList left, String.ofList right)

/-- Whether `part` occurs somewhere in `s`. -/
def occurs (part s : String) : Bool := occursIn part.toList s.toList

theorem occurs_iff {part s : String} : occurs part s = true ↔ part.toList <:+: s.toList :=
  occursIn_iff

/-- The pieces of a text between its occurrences of `c`; a text without any is one piece. -/
def pieces (c : Char) (s : String) : List String := (s.toList.splitOn c).map String.ofList

theorem not_mem_of_mem_splitOn {c : Char} {text piece : List Char} (h : piece ∈ text.splitOn c) :
    c ∉ piece := by
  induction text generalizing piece with
  | nil => simp_all
  | cons d rest ih =>
    rw [List.splitOn_cons_eq_if_modifyHead] at h
    split at h
    · rcases List.mem_cons.mp h with rfl | hlater
      · simp
      · exact ih hlater
    · rename_i hd
      -- a character that does not part pieces goes to the first one
      cases hsplit : rest.splitOn c with
      | nil => exact absurd hsplit (List.splitOn_ne_nil c rest)
      | cons first later =>
        rw [hsplit] at h ih
        rcases List.mem_cons.mp h with rfl | hlater
        · have hfirst : c ∉ first := ih List.mem_cons_self
          have hne : c ≠ d := fun heq => hd (by simp [heq])
          simp [hfirst, hne]
        · exact ih (List.mem_cons_of_mem first hlater)

theorem length_splitOn (c : Char) (text : List Char) :
    (text.splitOn c).length = text.count c + 1 := by
  induction text with
  | nil => rfl
  | cons d rest ih =>
    rw [List.splitOn_cons_eq_if_modifyHead, List.count_cons]
    split
    · rw [List.length_cons, ih]
    · rw [List.length_modifyHead, ih]

/-- Pieces with `c` between them again are the text. -/
theorem intercalate_pieces (c : Char) (s : String) :
    (String.singleton c).intercalate (pieces c s) = s := by
  rw [← String.toList_inj, String.toList_intercalate, pieces, List.map_map]
  have hpieces : String.toList ∘ String.ofList = id := funext fun _ => String.toList_ofList
  rw [hpieces, List.map_id, String.toList_singleton, List.intercalate_splitOn]

theorem not_mem_of_mem_pieces {c : Char} {s piece : String} (h : piece ∈ pieces c s) :
    c ∉ piece.toList := by
  obtain ⟨part, hpart, rfl⟩ := List.mem_map.mp h
  rw [String.toList_ofList]
  exact not_mem_of_mem_splitOn hpart

theorem length_pieces (c : Char) (s : String) : (pieces c s).length = s.toList.count c + 1 := by
  rw [pieces, List.length_map, length_splitOn]

/-- Texts without `c` are the pieces of the text that they make up with `c` between them. -/
theorem pieces_intercalate {c : Char} {parts : List String} (hparts : parts ≠ [])
    (hplain : ∀ part ∈ parts, c ∉ part.toList) :
    pieces c ((String.singleton c).intercalate parts) = parts := by
  have hlists : ∀ part ∈ parts.map String.toList, c ∉ part := by
    simpa using hplain
  rw [pieces, String.toList_intercalate, String.toList_singleton,
    List.splitOn_intercalate c hlists (by simpa using hparts), List.map_map]
  have htexts : String.ofList ∘ String.toList = id := funext fun _ => String.ofList_toList
  rw [htexts, List.map_id]

/-- A text without the copies of `c` that end it. -/
def trimRight (c : Char) (s : String) : String :=
  String.ofList (dropLeading c s.toList.reverse).reverse

/-- Copies of `c` that follow a text which does not end with one do not count. -/
theorem trimRight_append_replicate {c : Char} {s : String} (hlast : s.toList.getLast? ≠ some c)
    (k : Nat) : trimRight c (s ++ String.ofList (List.replicate k c)) = s := by
  have hfirst : s.toList.reverse.head? ≠ some c := by rwa [List.head?_reverse]
  rw [trimRight, String.toList_append, String.toList_ofList, List.reverse_append,
    List.reverse_replicate, dropLeading_replicate, dropLeading_eq_self hfirst, List.reverse_reverse,
    String.ofList_toList]

/-- Whether a text starts with `part`. -/
def startsWith (part s : String) : Bool := part.toList.isPrefixOf s.toList

/-- What follows `part` at the start of a text, if the text starts so. -/
def afterStart (part s : String) : Option String :=
  if startsWith part s then some (String.ofList (s.toList.drop part.length)) else none

end Provisioner.Text
