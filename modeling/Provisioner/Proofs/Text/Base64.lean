import Provisioner.Text.Base64
import Mathlib.Data.List.GetD
import Mathlib.Tactic.Lemma
/-!
# Base64 read back

Decoding gives back the bytes that were encoded, whatever they are.  The encoding consists of the
digits of the alphabet and the mark that fills up the last group.
-/

namespace Provisioner.Text.Base64

open Utf8 (Bytes)

lemma value?_digit : ∀ n < 64, value? (digit n) = some n := by decide +kernel

lemma digit_ne_mark {n : Nat} (hn : n < 64) : digit n ≠ '=' := by
  intro heq
  have hvalue := value?_digit n hn
  rw [heq, value?] at hvalue
  simp at hvalue

/-- Three bytes come back from their group of four digits. -/
lemma decode?_group {p q r s : Nat} (hp : p < 64) (hq : q < 64) (hr : r < 64) (hs : s < 64)
    (rest : List Char) :
    decode? (digit p :: digit q :: digit r :: digit s :: rest) =
      (decode? rest).map fun bytes =>
        UInt8.ofNat ((((p * 64 + q) * 64 + r) * 64 + s) / 65536) ::
        UInt8.ofNat ((((p * 64 + q) * 64 + r) * 64 + s) / 256 % 256) ::
        UInt8.ofNat ((((p * 64 + q) * 64 + r) * 64 + s) % 256) :: bytes := by
  rw [decode?]
  · simp [value?_digit, hp, hq, hr, hs]
    cases decode? rest <;> rfl
  · exact fun hmark => absurd hmark (digit_ne_mark hr)
  · exact fun hmark => absurd hmark (digit_ne_mark hs)

/-- The bytes that were encoded come back. -/
theorem decode?_encode (bytes : Bytes) : decode? (encode bytes) = some bytes := by
  -- Group by group; the last one may have one or two bytes only.
  fun_induction encode bytes with
  | case1 => rfl
  | case2 a n =>
    have hp : n / 4 < 64 := by have := a.toNat_lt; omega
    have hq : n % 4 * 16 < 64 := by omega
    have hbyte : n / 4 * 4 + n % 4 * 16 / 16 = a.toNat := by omega
    rw [decode?, value?_digit _ hp, value?_digit _ hq]
    show (if n % 4 * 16 % 16 = 0 then some [UInt8.ofNat (n / 4 * 4 + n % 4 * 16 / 16)] else none) =
      some [a]
    rw [if_pos (by omega), hbyte, UInt8.ofNat_toNat]
  | case3 a b n =>
    have ha := a.toNat_lt
    have hb := b.toNat_lt
    have hp : n / 1024 < 64 := by omega
    have hq : n / 16 % 64 < 64 := by omega
    have hr : n % 16 * 4 < 64 := by omega
    have hword : (n / 1024 * 64 + n / 16 % 64) * 16 + n % 16 * 4 / 4 = n := by omega
    have hfirst : n / 256 = a.toNat := by omega
    have hsecond : n % 256 = b.toNat := by omega
    rw [decode?, value?_digit _ hp, value?_digit _ hq, value?_digit _ hr]
    · show (if n % 16 * 4 % 4 = 0 then
          some [UInt8.ofNat (((n / 1024 * 64 + n / 16 % 64) * 16 + n % 16 * 4 / 4) / 256),
            UInt8.ofNat (((n / 1024 * 64 + n / 16 % 64) * 16 + n % 16 * 4 / 4) % 256)]
        else none) = some [a, b]
      rw [if_pos (by omega), hword, hfirst, hsecond, UInt8.ofNat_toNat, UInt8.ofNat_toNat]
    · exact fun hmark => absurd hmark (digit_ne_mark hr)
  | case4 a b c rest n ih =>
    have ha := a.toNat_lt
    have hb := b.toNat_lt
    have hc := c.toNat_lt
    have hp : n / 262144 < 64 := by omega
    have hword : ((n / 262144 * 64 + n / 4096 % 64) * 64 + n / 64 % 64) * 64 + n % 64 = n := by
      omega
    have hfirst : n / 65536 = a.toNat := by omega
    have hsecond : n / 256 % 256 = b.toNat := by omega
    have hthird : n % 256 = c.toNat := by omega
    rw [decode?_group hp (Nat.mod_lt _ (by decide)) (Nat.mod_lt _ (by decide))
      (Nat.mod_lt _ (by decide)), ih, hword, hfirst, hsecond, hthird]
    simp

/-- The bytes of a base64 text are those that it was made from. -/
@[simp] theorem decodeString?_encodeString (bytes : Bytes) :
    decodeString? (encodeString bytes) = some bytes := by
  rw [decodeString?, encodeString, String.toList_ofList, decode?_encode]

/-! ### What a text in base64 consists of -/

lemma digit_mem_alphabet (n : Nat) : digit n ∈ alphabet := by
  by_cases hn : n < alphabet.length
  · have hget : digit n = alphabet[n] := List.getD_eq_getElem _ _ hn
    rw [hget]
    exact List.getElem_mem hn
  · have hdefault : digit n = 'A' := List.getD_eq_default _ _ (Nat.not_lt.mp hn)
    rw [hdefault]
    decide

/-- A text in base64 is made of digits and marks. -/
lemma mem_encode {bytes : Bytes} {c : Char} (hc : c ∈ encode bytes) : c ∈ '=' :: alphabet := by
  have hdigit : ∀ n, digit n ∈ '=' :: alphabet := fun n =>
    List.mem_cons_of_mem _ (digit_mem_alphabet n)
  have hmark : '=' ∈ '=' :: alphabet := List.mem_cons_self
  fun_induction encode bytes with
  | case1 => cases hc
  | case2 a n =>
    simp only [List.mem_cons, List.not_mem_nil, or_false] at hc
    rcases hc with rfl | rfl | rfl | rfl
    · exact hdigit _
    · exact hdigit _
    · exact hmark
    · exact hmark
  | case3 a b n =>
    simp only [List.mem_cons, List.not_mem_nil, or_false] at hc
    rcases hc with rfl | rfl | rfl | rfl
    · exact hdigit _
    · exact hdigit _
    · exact hdigit _
    · exact hmark
  | case4 a b c rest n ih =>
    simp only [List.mem_cons] at hc
    rcases hc with rfl | rfl | rfl | rfl | hc
    · exact hdigit _
    · exact hdigit _
    · exact hdigit _
    · exact hdigit _
    · exact ih hc

end Provisioner.Text.Base64
