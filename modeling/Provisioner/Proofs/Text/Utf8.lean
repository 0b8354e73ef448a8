import Provisioner.Text.Utf8
import Mathlib.Tactic.Lemma
/-!
# UTF-8 read back

Decoding gives back the text that was encoded, whatever its characters are.
-/

namespace Provisioner.Text.Utf8

variable {a b c d : UInt8} {m n k : Nat} {rest : Bytes}

lemma toNat_ofNat (hn : n < 0x100) : (UInt8.ofNat n).toNat = n := by
  rw [UInt8.toNat_ofNat']
  exact Nat.mod_eq_of_lt hn

/-- A byte that goes on a character carries six bits of it. -/
lemma continuation?_ofNat (hn : n < 0x40) : continuation? (UInt8.ofNat (0x80 + n)) = some n := by
  rw [continuation?, toNat_ofNat (by omega), if_pos (by omega)]
  exact congrArg some (Nat.add_sub_cancel_left ..)

lemma scalar?_toNat (c : Char) : scalar? c.toNat = some c := by
  have hvalid : c.toNat.isValidChar := c.valid
  rw [scalar?, dif_pos hvalid]
  rfl

/-! ### Characters of two, three and four bytes -/

lemma decode?_two (hb : continuation? b = some m) (hlow : 0xC2 ≤ a.toNat)
    (hhigh : a.toNat < 0xE0) :
    decode? (a :: b :: rest) =
      (scalar? ((a.toNat - 0xC0) * 0x40 + m)).bind fun c => (decode? rest).map (c :: ·) := by
  rw [decode?.eq_def]
  dsimp only
  rw [if_neg (by omega), hb]
  dsimp only
  rw [if_neg (by omega), if_pos hhigh]
  rfl

lemma decode?_three (hb : continuation? b = some m) (hc : continuation? c = some k)
    (hlow : 0xE0 ≤ a.toNat) (hhigh : a.toNat < 0xF0)
    (hlong : 0x800 ≤ ((a.toNat - 0xE0) * 0x40 + m) * 0x40 + k) :
    decode? (a :: b :: c :: rest) =
      (scalar? (((a.toNat - 0xE0) * 0x40 + m) * 0x40 + k)).bind fun c =>
        (decode? rest).map (c :: ·) := by
  rw [decode?.eq_def]
  dsimp only
  rw [if_neg (by omega), hb]
  dsimp only
  rw [if_neg (by omega), if_neg (by omega), hc]
  dsimp only
  rw [if_pos hhigh, if_neg (by omega)]
  rfl

lemma decode?_four (hb : continuation? b = some m) (hc : continuation? c = some k)
    (hd : continuation? d = some n) (hlow : 0xF0 ≤ a.toNat) (hhigh : a.toNat < 0xF5)
    (hlong : 0x10000 ≤ (((a.toNat - 0xF0) * 0x40 + m) * 0x40 + k) * 0x40 + n) :
    decode? (a :: b :: c :: d :: rest) =
      (scalar? ((((a.toNat - 0xF0) * 0x40 + m) * 0x40 + k) * 0x40 + n)).bind fun c =>
        (decode? rest).map (c :: ·) := by
  rw [decode?.eq_def]
  dsimp only
  rw [if_neg (by omega), hb]
  dsimp only
  rw [if_neg (by omega), if_neg (by omega), hc]
  dsimp only
  rw [if_neg (by omega), hd]
  dsimp only
  rw [if_neg (by omega)]
  rfl

/-! ### Texts -/

/-- One character comes back, and decoding goes on after it. -/
lemma decode?_encodeChar (c : Char) (rest : Bytes) :
    decode? (encodeChar c ++ rest) = (decode? rest).map (c :: ·) := by
  have hlimit : c.toNat < 0x110000 := c.valid.elim (fun h => Nat.lt_trans h (by decide)) And.right
  -- One case for each length of the sequence: the parts of the word are put together again.
  unfold encodeChar
  dsimp only
  split
  · rename_i hone
    rw [List.singleton_append, decode?.eq_def]
    dsimp only
    rw [toNat_ofNat (by omega), if_pos hone, Char.ofNat_toNat]
  · split
    · rename_i hone htwo
      have hlead : (UInt8.ofNat (0xC0 + c.toNat / 0x40)).toNat = 0xC0 + c.toNat / 0x40 :=
        toNat_ofNat (by omega)
      have hword : (0xC0 + c.toNat / 0x40 - 0xC0) * 0x40 + c.toNat % 0x40 = c.toNat := by omega
      rw [List.cons_append, List.singleton_append,
        decode?_two (continuation?_ofNat (by omega)) (by omega) (by omega), hlead, hword,
        scalar?_toNat]
      rfl
    · split
      · rename_i hone htwo hthree
        have hlead : (UInt8.ofNat (0xE0 + c.toNat / 0x1000)).toNat = 0xE0 + c.toNat / 0x1000 :=
          toNat_ofNat (by omega)
        have hword : ((0xE0 + c.toNat / 0x1000 - 0xE0) * 0x40 + c.toNat / 0x40 % 0x40) * 0x40 +
            c.toNat % 0x40 = c.toNat := by omega
        rw [List.cons_append, List.cons_append, List.singleton_append,
          decode?_three (continuation?_ofNat (by omega)) (continuation?_ofNat (by omega))
            (by omega) (by omega) (by omega), hlead, hword, scalar?_toNat]
        rfl
      · rename_i hone htwo hthree
        have hlead : (UInt8.ofNat (0xF0 + c.toNat / 0x40000)).toNat = 0xF0 + c.toNat / 0x40000 :=
          toNat_ofNat (by omega)
        have hword : (((0xF0 + c.toNat / 0x40000 - 0xF0) * 0x40 + c.toNat / 0x1000 % 0x40) * 0x40 +
            c.toNat / 0x40 % 0x40) * 0x40 + c.toNat % 0x40 = c.toNat := by omega
        rw [List.cons_append, List.cons_append, List.cons_append, List.singleton_append,
          decode?_four (continuation?_ofNat (by omega)) (continuation?_ofNat (by omega))
            (continuation?_ofNat (by omega)) (by omega) (by omega) (by omega), hlead, hword,
          scalar?_toNat]
        rfl

/-- The text that was encoded comes back. -/
theorem decode?_encode (text : List Char) : decode? (encode text) = some text := by
  induction text with
  | nil => rfl
  | cons c text ih =>
    have hcons : encode (c :: text) = encodeChar c ++ encode text := rfl
    rw [hcons, decode?_encodeChar, ih]
    rfl

/-- A character and the text after it, when that text goes on. -/
lemma bind_scalar?_append {a b : Bytes} {code : Option Char} {text : List Char}
    (h : (code.bind fun c => (decode? a).map (c :: ·)) = some text)
    (ih : ∀ {text}, decode? a = some text → decode? (a ++ b) = (decode? b).map (text ++ ·)) :
    (code.bind fun c => (decode? (a ++ b)).map (c :: ·)) = (decode? b).map (text ++ ·) := by
  obtain ⟨c, rfl, hmap⟩ := Option.bind_eq_some_iff.mp h
  obtain ⟨later, hlater, rfl⟩ := Option.map_eq_some_iff.mp hmap
  rw [Option.bind_some, ih hlater, Option.map_map]
  rfl

/-- Decoding goes on after bytes that are those of a text. -/
theorem decode?_append {a b : Bytes} {text : List Char} (h : decode? a = some text) :
    decode? (a ++ b) = (decode? b).map (text ++ ·) := by
  -- One case for each length of a sequence; in all others nothing is decoded.
  fun_induction decode? a generalizing text with
  | case1 =>
    cases h
    simp
  | case2 first rest hone ih =>
    rw [List.cons_append, decode?.eq_def]
    dsimp only
    rw [if_pos hone]
    have hfirst : ((some (Char.ofNat first.toNat)).bind fun c =>
      (decode? rest).map (c :: ·)) = some text := h
    exact bind_scalar?_append hfirst ih
  | case6 first hone second rest m hm hlow hhigh ih =>
    rw [List.cons_append, List.cons_append, decode?_two hm (by omega) hhigh]
    exact bind_scalar?_append h ih
  | case10 first hone second m hm hlow htwo third rest k hk hhigh code hlong =>
    rename_i ih
    rw [List.cons_append, List.cons_append, List.cons_append,
      decode?_three hm hk (by omega) hhigh (Nat.le_of_not_lt hlong)]
    exact bind_scalar?_append h ih
  | case14 first hone second m hm hlow htwo third k hk hthree fourth rest n hn code hlong =>
    rename_i ih
    obtain ⟨hhigh, hlong⟩ := not_or.mp hlong
    rw [List.cons_append, List.cons_append, List.cons_append, List.cons_append,
      decode?_four hm hk hn (by omega) (by omega) (Nat.le_of_not_lt hlong)]
    exact bind_scalar?_append h ih
  | _ => cases h

/-- The string of the bytes of a string is that string. -/
@[simp] theorem string?_bytes (s : String) : string? (bytes s) = some s := by
  rw [string?, bytes, decode?_encode]
  simp

end Provisioner.Text.Utf8
