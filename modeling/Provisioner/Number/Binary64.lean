/-!
# Double-precision numbers

A number of the 64-bit binary format is kept as its bits, so that two of them are equal exactly
when they are the same number written the same way (the two zeros differ).  Arithmetic on finite
numbers is done on integers: a magnitude is a mantissa times a power of two, and `ofRatio` rounds
a quotient of naturals to the nearest number, a tie to the even mantissa.
-/

namespace Provisioner

/-- A double-precision number, given by its 64 bits. -/
structure Binary64 where
  /-- Sign, eleven bits of exponent, fifty-two bits of fraction. -/
  bits : UInt64
deriving DecidableEq, Inhabited

namespace Binary64

/-- Bits of the positive infinity; every finite magnitude is below. -/
def infinityBits : Nat := 0x7FF0000000000000

/-- Whether the sign bit is set. -/
def isNegative (x : Binary64) : Bool := 0x8000000000000000 ≤ x.bits.toNat

/-- The bits without the sign. -/
def magnitudeBits (x : Binary64) : Nat := x.bits.toNat % 0x8000000000000000

/-- Neither an infinity nor a non-number. -/
def isFinite (x : Binary64) : Bool := x.magnitudeBits < infinityBits

/-- Neither of the two zeros. -/
def isZero (x : Binary64) : Bool := x.magnitudeBits == 0

/-- Mantissa `m` and exponent `e` of a finite number: its magnitude is `m * 2 ^ e`. -/
def parts (x : Binary64) : Nat × Int :=
  let field := x.magnitudeBits / 0x10000000000000
  let fraction := x.magnitudeBits % 0x10000000000000
  if field = 0 then (fraction, -1074) else (fraction + 0x10000000000000, (field : Int) - 1075)

/-- The number with the given sign and bits of magnitude. -/
def ofMagnitude (negative : Bool) (magnitude : Nat) : Binary64 :=
  ⟨UInt64.ofNat (if negative then 0x8000000000000000 + magnitude else magnitude)⟩

/-- The quotient rounded to the nearest natural, a tie to the even one. -/
def roundDiv (num den : Nat) : Nat :=
  let q := num / den
  let r := num % den
  if 2 * r < den then q
  else if den < 2 * r then q + 1
  else if q % 2 = 0 then q else q + 1

/-- `num / (den * 2 ^ e)` as a pair of naturals. -/
def scaleDown (num den : Nat) (e : Int) : Nat × Nat :=
  match e with
  | .ofNat k => (num, den * Nat.pow 2 k)
  | .negSucc k => (num * Nat.pow 2 (k + 1), den)

/-- The number nearest to `num / den`, with the given sign; an infinity past the greatest.  The
unit `2 ^ e` of the last place is chosen so that the mantissa has fifty-three bits, or is the
least unit there is; the bits of a magnitude are then its mantissa counted on from the bits of the
numbers with smaller units. -/
def ofRatio (negative : Bool) (num den : Nat) : Binary64 :=
  if num = 0 then ofMagnitude negative 0
  else
    let estimate : Int := (Nat.log2 num : Int) - Nat.log2 den
    let high := max (estimate - 52) (-1074)
    let (n, d) := scaleDown num den high
    let unit := if n / d < 0x10000000000000 then max (high - 1) (-1074) else high
    let (n, d) := scaleDown num den unit
    let magnitude := (unit + 1074).toNat * 0x10000000000000 + roundDiv n d
    ofMagnitude negative (min magnitude infinityBits)

/-- The number nearest to a natural. -/
def ofNat (n : Nat) : Binary64 := ofRatio false n 1

/-- The number nearest to `10 ^ k`. -/
def tenPow (k : Nat) : Binary64 := ofNat (Nat.pow 10 k)

/-- The rounded product of two finite numbers. -/
def mul (x y : Binary64) : Binary64 :=
  let (m, e) := x.parts
  let (n, f) := y.parts
  let (num, den) := scaleDown (m * n) 1 (-(e + f))
  ofRatio (x.isNegative != y.isNegative) num den

/-- The rounded quotient of two finite numbers, the second one not a zero. -/
def div (x y : Binary64) : Binary64 :=
  let (m, e) := x.parts
  let (n, f) := y.parts
  let (num, den) := scaleDown m n (f - e)
  ofRatio (x.isNegative != y.isNegative) num den

/-- The number nearest to `digits * 10 ^ exponent`. -/
def ofDecimal (negative : Bool) (digits : Nat) (exponent : Int) : Binary64 :=
  match exponent with
  | .ofNat k => ofRatio negative (digits * Nat.pow 10 k) 1
  | .negSucc k => ofRatio negative digits (Nat.pow 10 (k + 1))

/-- The same magnitude with the other sign. -/
def neg (x : Binary64) : Binary64 := ofMagnitude (!x.isNegative) x.magnitudeBits

example : ofRatio false 1 1 = ⟨0x3FF0000000000000⟩ := by decide
example : ofDecimal false 1 (-1) = ⟨0x3FB999999999999A⟩ := by decide
example : ofDecimal true 5 (-324) = ⟨0x8000000000000001⟩ := by decide +kernel

end Binary64

end Provisioner
