import Mathlib.Data.List.TakeWhile
import Mathlib.Tactic.Lemma
import Mathlib.Tactic.Tauto
import Provisioner.Http.Target
/-!
# Paths and parameters of a target

What a text stands for when it is taken as the target of a request: its path does not depend on the
parameters, and a text in which nothing ends a path is that path.  Parameters are sent as they are,
unless a number sign in the text cuts them off.
-/

namespace Provisioner.Http

/-! ## The path of a target -/

/-- The path that a text stands for: what comes before a question mark or a number sign. -/
def pathOf (path : String) : String :=
  String.ofList (path.toList.takeWhile fun c => c != '?' && c != '#')

lemma takeWhile_path (path rest : List Char) :
    (path ++ '?' :: rest).takeWhile (fun c => c != '?' && c != '#') =
      path.takeWhile fun c => c != '?' && c != '#' := by
  induction path with
  | nil => rfl
  | cons c path ih => rw [List.cons_append, List.takeWhile_cons, List.takeWhile_cons, ih]

/-- The path of a target does not depend on its parameters. -/
lemma path_of_target? {path target : String} {parameters query : List (String × String)}
    (htarget : target? path parameters = some (target, query)) :
    target = pathOf path := by
  unfold target? parts? at htarget
  obtain ⟨-, hparts⟩ := Option.ite_none_right_eq_some.mp htarget
  obtain ⟨rfl, -⟩ := Prod.mk.inj (Option.some.inj hparts)
  rw [takeWhile_path]
  rfl

/-! ## Texts that stand in a path -/

/-- Nothing in the text ends a path. -/
def IsPlain (text : String) : Prop := ∀ c ∈ text.toList, c ≠ '?' ∧ c ≠ '#'

instance (text : String) : Decidable (IsPlain text) :=
  decidable_of_iff (text.toList.all (fun c => c != '?' && c != '#') = true) (by simp [IsPlain])

lemma isPlain_append {a b : String} : IsPlain (a ++ b) ↔ IsPlain a ∧ IsPlain b := by
  simp only [IsPlain, String.toList_append, List.mem_append, or_imp, forall_and]
  tauto

lemma IsPlain.takeWhile_eq {text : String} (plain : IsPlain text) :
    text.toList.takeWhile (fun c => c != '?' && c != '#') = text.toList := by
  rw [List.takeWhile_eq_self_iff]
  intro c hc
  simpa using plain c hc

/-- A plain text that is a path is its own target. -/
lemma IsPlain.bare?_eq {text : String} (plain : IsPlain text) :
    bare? text = if text.toList.all isPathChar then some (text, []) else none := by
  unfold bare? parts?
  simp only [plain.takeWhile_eq, List.drop_length, String.ofList_toList]
  simp [Form.decode]

/-- What comes after a plain text is the parameters. -/
lemma IsPlain.target?_eq {text : String} (plain : IsPlain text)
    (parameters : List (String × String)) :
    target? text parameters =
      let query := (Form.goOn parameters).takeWhile (· != '#')
      if text.toList.all isPathChar && query.all isQueryChar then some (text, Form.decode query)
      else none := by
  unfold target? parts?
  simp only [takeWhile_path, plain.takeWhile_eq, List.drop_left, String.ofList_toList]

/-- Without parameters nothing comes after a plain text. -/
lemma IsPlain.bare?_eq_target? {text : String} (plain : IsPlain text) :
    bare? text = target? text [] := by
  rw [plain.bare?_eq, plain.target?_eq]
  simp [Form.goOn, Form.decode]

/-- A plain text is the path that it stands for. -/
lemma IsPlain.pathOf_eq {text : String} (plain : IsPlain text) : pathOf text = text := by
  rw [pathOf, plain.takeWhile_eq, String.ofList_toList]

lemma Form.decode_append_cons (before after : List Char) :
    Form.decode (before ++ '&' :: after) = Form.decode before ++ Form.decode after := by
  have hsplit := List.splitOnP_append_cons (p := (· == '&')) before after
    (show ('&' == '&') = true from rfl)
  simp only [Form.decode, List.splitOn, hsplit, List.filter_append, List.map_append]

/-- What goes on a form comes after what is there. -/
lemma Form.decode_goOn (before : List Char) (parameters : List (String × String)) :
    Form.decode (before ++ Form.goOn parameters) =
      Form.decode before ++ Form.decode (Form.goOn parameters) := by
  cases parameters with
  | nil => simp [Form.goOn, Form.decode]
  | cons parameter rest =>
    have hgoOn : Form.goOn (parameter :: rest) =
        '&' :: (Form.encodePair parameter ++ Form.goOn rest) := rfl
    rw [hgoOn, Form.decode_append_cons, ← List.nil_append ('&' :: _), Form.decode_append_cons]
    rfl

lemma takeWhile_uncut {text : List Char} (uncut : '#' ∉ text) :
    text.takeWhile (· != '#') = text := by
  rw [List.takeWhile_eq_self_iff]
  intro c hc
  have hne : c ≠ '#' := fun heq => uncut (by rwa [heq] at hc)
  simpa using hne

/-- Parameters are sent as they are, after those that a question mark in the path begins, unless a
number sign cuts them off. -/
lemma suffix_of_target? {path target : String} {parameters query : List (String × String)}
    (uncut : '#' ∉ path.toList) (clean : '#' ∉ Form.goOn parameters)
    (sound : Form.decode (Form.goOn parameters) = parameters)
    (htarget : target? path parameters = some (target, query)) : parameters <:+ query := by
  unfold target? parts? at htarget
  obtain ⟨-, hparts⟩ := Option.ite_none_right_eq_some.mp htarget
  obtain ⟨-, rfl⟩ := Prod.mk.inj (Option.some.inj hparts)
  clear htarget hparts
  have hpath := List.takeWhile_append_dropWhile (p := fun c => c != '?' && c != '#')
    (l := path.toList)
  have hhead := List.head?_dropWhile_not (fun c => c != '?' && c != '#') path.toList
  rw [takeWhile_path]
  generalize path.toList.takeWhile (fun c => c != '?' && c != '#') = start at hpath ⊢
  cases hrest : path.toList.dropWhile (fun c => c != '?' && c != '#') with
  | nil =>
    -- nothing ends the path but the question mark before the parameters
    rw [hrest, List.append_nil] at hpath
    rw [← hpath, List.drop_left]
    have hquery : Form.decode ((Form.goOn parameters).takeWhile (· != '#')) = parameters := by
      rw [takeWhile_uncut clean, sound]
    exact ⟨[], hquery.symm⟩
  | cons c more =>
    rw [hrest] at hpath hhead
    have hc : c ≠ '#' := fun heq => uncut (by rw [← hpath, heq]; simp)
    have hmore : '#' ∉ more := fun hmem => uncut (by rw [← hpath]; simp [hmem])
    obtain rfl : c = '?' := by simpa [hc] using hhead
    rw [← hpath, List.append_assoc, List.drop_left]
    show parameters <:+ Form.decode ((more ++ '?' :: Form.goOn parameters).takeWhile (· != '#'))
    rw [takeWhile_uncut (by simp [hmore, clean]), ← List.singleton_append, ← List.append_assoc,
      Form.decode_goOn, sound]
    exact List.suffix_append _ _

/-- A plain path is the target, and the parameters are the query. -/
lemma IsPlain.eq_of_target? {path target : String} {parameters query : List (String × String)}
    (plain : IsPlain path) (clean : '#' ∉ Form.goOn parameters)
    (sound : Form.decode (Form.goOn parameters) = parameters)
    (htarget : target? path parameters = some (target, query)) :
    target = path ∧ query = parameters := by
  rw [plain.target?_eq] at htarget
  obtain ⟨-, hparts⟩ := Option.ite_none_right_eq_some.mp htarget
  obtain ⟨rfl, rfl⟩ := Prod.mk.inj (Option.some.inj hparts)
  rw [takeWhile_uncut clean, sound]
  exact ⟨rfl, rfl⟩

end Provisioner.Http
