import Provisioner.Json.Basic
/-!
# JSON numbers

A number is an integer when it is written without a fraction and an exponent and lies in the range
of the signed or unsigned 64-bit integers; otherwise it is a double.  The double is found from the
leading digits: as many of them are read as fit an unsigned 64-bit integer, each digit left out in
front of the point raises the exponent by one, and the integer, rounded, is multiplied or divided
by the rounded power of ten.  Minus zero is a double.
-/

namespace Provisioner.Json

/-- Why a number cannot be read. -/
inductive NumberError where
  /-- The characters are not a number. -/
  | malformed
  /-- The number is past the greatest double. -/
  | tooLarge
deriving DecidableEq, Repr

/-- A number cut into its parts, each digit as its value. -/
structure Numeral where
  /-- Whether a minus sign stands in front. -/
  negative : Bool
  /-- Digits in front of the point; at least one. -/
  whole : List Nat
  /-- Digits after the point, if there is one. -/
  fraction : Option (List Nat)
  /-- Whether the exponent is negative, and its digits, if there is one. -/
  exponent : Option (Bool × List Nat)
deriving DecidableEq

/-- The value of a decimal digit. -/
def digitValue? (c : Char) : Option Nat := if c.isDigit then some (c.toNat - 48) else none

/-- The digits that start a text, and the rest. -/
def takeDigits : List Char → List Nat × List Char
  | [] => ([], [])
  | c :: rest =>
    match digitValue? c with
    | some d => let (ds, rest) := takeDigits rest; (d :: ds, rest)
    | none => ([], c :: rest)

namespace Numeral

/-- An exponent part that makes up a whole text. -/
def exponentPart? : List Char → Option (Option (Bool × List Nat))
  | [] => some none
  | e :: text =>
    if e = 'e' ∨ e = 'E' then
      let (negative, text) := match text with
        | '-' :: text => (true, text)
        | '+' :: text => (false, text)
        | text => (false, text)
      match takeDigits text with
      | ([], _) => none
      | (digits, []) => some (some (negative, digits))
      | _ => none
    else none

/-- The parts of a number, by the grammar of JSON: no leading zero, and digits on both sides of a
point and after an exponent mark. -/
def ofChars? (text : List Char) : Option Numeral := do
  let (negative, text) := match text with
    | '-' :: text => (true, text)
    | text => (false, text)
  let (whole, text) := takeDigits text
  if whole = [] ∨ (whole.head? = some 0 ∧ 1 < whole.length) then none
  else
    match text with
    | '.' :: text =>
      match takeDigits text with
      | ([], _) => none
      | (fraction, text) => do
        let exponent ← exponentPart? text
        some ⟨negative, whole, some fraction, exponent⟩
    | text => do
      let exponent ← exponentPart? text
      some ⟨negative, whole, none, exponent⟩

/-- The greatest unsigned 64-bit integer. -/
def maxWord : Nat := 0xFFFFFFFFFFFFFFFF

/-- The greatest signed 32-bit integer; exponents past it are not told apart. -/
def maxExponent : Nat := 0x7FFFFFFF

/-- Read digits onto `kept` while the result fits a word: the integer reached and the number of
digits left over. -/
def keep (kept : Nat) : List Nat → Nat × Nat
  | [] => (kept, 0)
  | d :: rest =>
    if maxWord < kept * 10 + d then (kept, rest.length + 1) else keep (kept * 10 + d) rest

/-- The natural of a list of digits. -/
def natural (digits : List Nat) : Nat := digits.foldl (fun n d => n * 10 + d) 0

/-- `kept * 10 ^ exponent` as a double: the rounded `kept` times or over the rounded power.  An
exponent below `-308` is reached in steps of `308`, at most `steps` of them. -/
def scale (kept : Binary64) (exponent : Int) : Nat → Except NumberError Binary64
  | 0 => .ok kept
  | steps + 1 =>
    if exponent.natAbs ≤ 308 then
      if 0 ≤ exponent then
        let value := kept.mul (.tenPow exponent.natAbs)
        if value.isFinite then .ok value else .error .tooLarge
      else .ok (kept.div (.tenPow exponent.natAbs))
    else if kept.isZero then .ok kept
    else if 0 ≤ exponent then .error .tooLarge
    else scale (kept.div (.tenPow 308)) (exponent + 308) steps

/-- The value of the parts as a double.  Ten steps of `308` bring any integer down to zero, so more
are never needed. -/
def toDouble (n : Numeral) : Except NumberError Binary64 := do
  let (kept, dropped) := keep 0 n.whole
  let fraction := n.fraction.getD []
  let (kept, left) := keep kept fraction
  let start : Int := (dropped : Int) - ((fraction.length : Int) - left)
  let magnitude ← match n.exponent with
    | none => scale (.ofNat kept) start 10
    | some (negative, digits) =>
      if maxExponent < natural digits then
        if kept ≠ 0 ∧ ¬ negative then .error .tooLarge else .ok (.ofNat 0)
      else
        scale (.ofNat kept) (if negative then start - natural digits else start + natural digits) 10
  return if n.negative then magnitude.neg else magnitude

/-- The JSON value of the parts. -/
def value (n : Numeral) : Except NumberError Json :=
  let magnitude := natural n.whole
  if n.fraction = none ∧ n.exponent = none ∧ ¬ (n.negative ∧ magnitude = 0) ∧
      magnitude ≤ (if n.negative then 0x8000000000000000 else maxWord) then
    .ok (.int (if n.negative then -magnitude else magnitude))
  else n.toDouble.map .float

end Numeral

/-- The value of a number. -/
def ofNumeral (text : List Char) : Except NumberError Json :=
  match Numeral.ofChars? text with
  | none => .error .malformed
  | some n => n.value

end Provisioner.Json
