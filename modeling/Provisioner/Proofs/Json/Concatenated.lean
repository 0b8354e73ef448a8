import Mathlib.Tactic.SplitIfs
import Provisioner.Json.Reader
import Provisioner.Proofs.Except
/-!
# Values one after the other

The reader never looks at the values it has completed, so reading goes on in the same way on top of
any others (`State.feed_above`).  A text that opens a container, or begins with white space, ends
whatever was being read at the top level.  Its values therefore follow those of a text before it,
even where a bare word or number stands right before the container (`readAll_append`).
-/

namespace Provisioner.Json

namespace State

variable {limit : Nat} {s t : State} {c : Char} {below values : List Json}

/-- The state with more values completed before those that it has. -/
def above (below : List Json) (s : State) : State := { s with done := s.done ++ below }

/-! ## Readers on top of completed values -/

@[simp] lemma above_mode : (s.above below).mode = s.mode := rfl

@[simp] lemma above_frames : (s.above below).frames = s.frames := rfl

lemma deliver_above (bare : Bool) (value : Json) :
    (s.above below).deliver bare value = (s.deliver bare value).above below := by
  obtain ⟨mode, frames, done⟩ := s
  rcases frames with _ | ⟨_ | _, outer⟩ <;> rfl

lemma push_above (mode : Mode) (frame : Frame) :
    (s.above below).push limit mode frame = (s.push limit mode frame).map (above below) := by
  unfold push
  rw [above_frames]
  split_ifs <;> rfl

lemma startValue_above :
    (s.above below).startValue limit c = (s.startValue limit c).map (above below) := by
  unfold startValue
  simp only [push_above]
  split_ifs <;> rfl

lemma close_above : (s.above below).close c = (s.close c).map (above below) := by
  obtain ⟨mode, frames, done⟩ := s
  rcases frames with _ | ⟨items | ⟨members, key⟩, outer⟩
  · rfl
  · unfold close
    dsimp only [above]
    split_ifs
    · exact congrArg Except.ok (deliver_above (s := ⟨mode, outer, done⟩) false _)
    · rfl
  · unfold close
    dsimp only [above]
    split_ifs
    · exact congrArg Except.ok (deliver_above (s := ⟨mode, outer, done⟩) false _)
    · rfl

lemma separate_above : (s.above below).separate = s.separate.above below := by
  obtain ⟨mode, frames, done⟩ := s
  rcases frames with _ | ⟨_ | _, outer⟩ <;> rfl

lemma between_above : (s.above below).between limit c = (s.between limit c).map (above below) := by
  unfold between
  rw [above_mode]
  cases hmode : s.mode with
  | colon key =>
    dsimp only
    split_ifs
    · rfl
    · obtain ⟨mode, frames, done⟩ := s
      rcases frames with _ | ⟨_ | _, outer⟩ <;> rfl
    · rfl
  | topBoundary =>
    dsimp only
    split_ifs
    · rfl
    · exact startValue_above (s := { s with mode := .top })
    · rfl
  | top | item | firstItem | firstKey | nextKey | after =>
    dsimp only
    try simp only [startValue_above, close_above, separate_above]
    split_ifs <;> rfl
  | text | word | number => rfl

lemma deliverText_above (isKey : Bool) (soFar : List Char) :
    (s.above below).deliverText isKey soFar = (s.deliverText isKey soFar).above below := by
  unfold deliverText
  split_ifs
  · rfl
  · exact deliver_above false _

lemma inText_above (isKey : Bool) (soFar : List Char) (escape : Escape) :
    (s.above below).inText isKey soFar c escape =
      (s.inText isKey soFar c escape).map (above below) := by
  cases escape with
  | none =>
    simp only [inText, deliverText_above]
    split_ifs <;> rfl
  | start =>
    unfold inText
    dsimp only
    split_ifs
    · rfl
    · cases simpleEscape? c <;> rfl
  | digits due value high =>
    unfold inText
    cases hexValue? c with
    | none => rfl
    | some d =>
      dsimp only
      split_ifs
      · rfl
      · rcases endDigits (value * 16 + d) high with _ | _ | _ <;> rfl
  | low high | lowStart high =>
    unfold inText
    dsimp only
    split_ifs <;> rfl

lemma deliverNumber_above (soFar : List Char) :
    (s.above below).deliverNumber soFar = (s.deliverNumber soFar).map (above below) := by
  unfold deliverNumber
  cases ofNumeral soFar.reverse with
  | error cause => rfl
  | ok value => exact congrArg Except.ok (deliver_above true value)

/-- Taking a character on top of completed values. -/
lemma step_above : (s.above below).step limit c = (s.step limit c).map (above below) := by
  unfold step
  rw [above_mode]
  cases hmode : s.mode with
  | text isKey escape soFar => exact inText_above isKey soFar escape
  | word rest value =>
    cases rest with
    | nil => exact between_above
    | cons d rest =>
      dsimp only
      rw [deliver_above]
      split_ifs <;> rfl
  | number soFar =>
    dsimp only
    split_ifs
    · rfl
    · rw [deliverNumber_above]
      cases s.deliverNumber soFar with
      | error cause => rfl
      | ok s => exact between_above
  | _ => exact between_above

/-- Reading on top of completed values. -/
lemma feed_above (text : List Char) :
    (s.above below).feed limit text = (s.feed limit text).map (above below) := by
  induction text generalizing s with
  | nil => rfl
  | cons c text ih =>
    unfold feed at ih ⊢
    rw [List.foldlM_cons, List.foldlM_cons, step_above]
    cases s.step limit c with
    | error cause => rfl
    | ok s => exact ih

/-- The values completed, where a text may end. -/
def ended (s : State) : Except ReadError (List Json) :=
  match s.mode, s.frames with
  | .top, [] | .topBoundary, [] => .ok s.done.reverse
  | _, _ => .error .unexpectedEnd

lemma finish_eq : s.finish =
    (match s.mode with
      | .number soFar => s.deliverNumber soFar
      | _ => .ok s).bind ended := by
  unfold finish
  cases s.mode <;> rfl

lemma ended_above : (s.above below).ended = s.ended.map (below.reverse ++ ·) := by
  obtain ⟨mode, frames, done⟩ := s
  cases frames with
  | cons frame outer => cases mode <;> rfl
  | nil =>
    cases mode with
    | top | topBoundary => exact congrArg Except.ok List.reverse_append
    | _ => rfl

/-- The values completed before come first in the end. -/
lemma finish_above : (s.above below).finish = s.finish.map (below.reverse ++ ·) := by
  rw [finish_eq, finish_eq, above_mode]
  cases s.mode with
  | number soFar =>
    dsimp only
    rw [deliverNumber_above]
    cases s.deliverNumber soFar with
    | error cause => rfl
    | ok s => exact ended_above
  | _ => exact ended_above

/-! ## Where a value at the top level ends -/

/-- A character that ends a value at the top level and may begin a text: white space, or the
opening of a container. -/
def Opens (c : Char) : Prop := isSpace c = true ∨ c = '[' ∨ c = '\x7b'

lemma Opens.isNumberChar (hc : Opens c) : isNumberChar c = false := by
  unfold Opens isSpace at hc
  simp only [Bool.or_eq_true, beq_iff_eq] at hc
  obtain (((rfl | rfl) | rfl) | rfl) | rfl | rfl := hc <;> rfl

lemma Opens.isBoundary (hc : Opens c) : isBoundary c = true := by
  unfold Opens at hc
  unfold State.isBoundary
  obtain h | rfl | rfl := hc
  · simp [h]
  · rfl
  · rfl

/-- A text may end where nothing is open, with or without a value that something must follow. -/
lemma eq_of_ended (h : s.ended = .ok values) :
    s = ⟨.top, [], values.reverse⟩ ∨ s = ⟨.topBoundary, [], values.reverse⟩ := by
  obtain ⟨mode, frames, done⟩ := s
  cases frames with
  | cons frame outer => cases mode <;> cases h
  | nil =>
    cases mode with
    | top =>
      cases h
      exact .inl (by rw [List.reverse_reverse])
    | topBoundary =>
      cases h
      exact .inr (by rw [List.reverse_reverse])
    | _ => cases h

/-- What follows a value that something must follow is read as at the start of a text. -/
lemma between_of_ended (h : s.ended = .ok values) (hc : Opens c) :
    s.between limit c = (start.step limit c).map (above values.reverse) := by
  have hstart : (⟨.top, [], values.reverse⟩ : State) = start.above values.reverse := rfl
  rw [← step_above, ← hstart]
  obtain rfl | rfl := eq_of_ended h
  · rfl
  · unfold step between
    dsimp only
    split_ifs with hspace hboundary
    · rfl
    · rfl
    · exact absurd hc.isBoundary hboundary

lemma step_of_finish (h : s.finish = .ok values) (hc : Opens c) :
    s.step limit c = (start.step limit c).map (above values.reverse) := by
  rw [finish_eq] at h
  obtain ⟨t, ht, hended⟩ := bind_eq_ok_iff.mp h
  rw [← between_of_ended hended hc]
  unfold step
  cases hmode : s.mode with
  | number soFar =>
    rw [hmode] at ht
    dsimp only at ht ⊢
    rw [if_neg (by simp [hc.isNumberChar]), ht]
    rfl
  | top | topBoundary =>
    rw [hmode] at ht
    cases ht
    rfl
  | _ =>
    rw [hmode] at ht
    cases ht
    obtain rfl | rfl := eq_of_ended hended <;> cases hmode

/-- Once a text may end, one that opens a container or begins with white space is read on top of the
values that there are. -/
lemma feed_of_finish (h : s.finish = .ok values) (hc : Opens c) (rest : List Char) :
    s.feed limit (c :: rest) = (start.feed limit (c :: rest)).map (above values.reverse) := by
  unfold feed
  rw [List.foldlM_cons, List.foldlM_cons, step_of_finish h hc]
  cases start.step limit c with
  | error cause => rfl
  | ok t => exact feed_above rest

end State

open State in
/-- The values of two texts one after the other are those of the first and then those of the
second, if the second opens a container or begins with white space. -/
theorem readAll_append {a rest : List Char} {c : Char} {values : List Json}
    (ha : readAll a = .ok values) (hc : Opens c) :
    readAll (a ++ c :: rest) = (readAll (c :: rest)).map (values ++ ·) := by
  obtain ⟨s, hs, hfinish⟩ := bind_eq_ok_iff.mp ha
  unfold readAll readAllWithin
  rw [feed_append, hs, Except.bind, feed_of_finish hfinish hc]
  cases start.feed depthLimit (c :: rest) with
  | error cause => rfl
  | ok t =>
    have hfinish : (t.above values.reverse).finish = _ := finish_above
    rw [List.reverse_reverse] at hfinish
    exact hfinish

end Provisioner.Json
