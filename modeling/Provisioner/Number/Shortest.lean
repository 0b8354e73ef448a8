import Provisioner.Number.Binary64
/-!
# The shortest decimal of a double

Of the decimals that round to a double, `shortest` gives one with the fewest digits and, of those,
the one nearest to the double.  `text` lays its digits out: positionally while the point stands
within sixteen digits or within five zeros, with a signed exponent otherwise, and always so that
the text is seen to be a fraction.
-/

namespace Provisioner.Binary64

/-- A decimal `digits * 10 ^ exponent`. -/
structure Decimal where
  /-- The digits read as one natural. -/
  digits : Nat
  /-- The power of ten of the last digit. -/
  exponent : Int
deriving DecidableEq

/-- The reals that round to the double `m * 2 ^ e`, times four over `2 ^ e`: from the lower end to
the upper end, the ends included exactly when `m` is even.  Below a power of two the spacing is
half as wide. -/
def roundingRange (m : Nat) (e : Int) : Nat × Nat :=
  if m = 0x10000000000000 ∧ -1074 < e then (4 * m - 1, 4 * m + 2) else (4 * m - 2, 4 * m + 2)

/-- Whether `n / d` lies in the range of the reals that round to `m * 2 ^ e`, where both are given
in units of `2 ^ (e - 2)`. -/
def inRange (m : Nat) (e : Int) (n d : Nat) : Bool :=
  let (low, high) := roundingRange m e
  if m % 2 = 0 then low * d ≤ n ∧ n ≤ high * d else low * d < n ∧ n < high * d

/-- `10 ^ k / 2 ^ (e - 2)` as a pair of naturals. -/
def unitRatio (k e : Int) : Nat × Nat :=
  let ten : Nat × Nat := match k with
    | .ofNat k => (Nat.pow 10 k, 1)
    | .negSucc k => (1, Nat.pow 10 (k + 1))
  scaleDown ten.1 ten.2 (e - 2)

/-- The nearer of the two neighbours of `m * 2 ^ e` on the grid of the multiples of `10 ^ k` that
rounds to it, the even one on a tie. -/
def onGrid? (m : Nat) (e k : Int) : Option Decimal :=
  let (n, d) := unitRatio k e
  let below := 4 * m * d / n
  let fits (c : Nat) := inRange m e (c * n) d
  let offset := 4 * m * d - below * n
  let nearer :=
    if 2 * offset < n then below
    else if n < 2 * offset then below + 1
    else if below % 2 = 0 then below else below + 1
  let farther := if nearer = below then below + 1 else below
  if fits nearer then some ⟨nearer, k⟩
  else if fits farther then some ⟨farther, k⟩
  else none

/-- Search the grids from `10 ^ k` on downwards, at most `steps` of them. -/
def firstGrid (m : Nat) (e : Int) : Nat → Int → Decimal
  | 0, _ => ⟨m, e⟩
  | steps + 1, k =>
    match onGrid? m e k with
    | some d => d
    | none => firstGrid m e steps (k - 1)

/-- A decimal without the zeros that end its digits. -/
def Decimal.trim : Nat → Decimal → Decimal
  | 0, d => d
  | steps + 1, d =>
    if d.digits ≠ 0 ∧ d.digits % 10 = 0 then trim steps ⟨d.digits / 10, d.exponent + 1⟩ else d

/-- The shortest decimal that reads back as a finite double other than zero. -/
def shortest (x : Binary64) : Decimal :=
  let (m, e) := x.parts
  let top : Int := ((Nat.log2 m : Int) + e) * 30103 / 100000 + 1
  (firstGrid m e 20 top).trim 20

/-- A decimal laid out: the point is written when it stands after one of the first sixteen digits
or at most four zeros in front of the first, and an exponent otherwise. -/
def Decimal.layout (d : Decimal) : String :=
  let text := Nat.toDigits 10 d.digits
  let point : Int := text.length + d.exponent
  let body : List Char :=
    if 0 ≤ d.exponent ∧ point ≤ 16 then
      text ++ List.replicate d.exponent.toNat '0' ++ ['.', '0']
    else if 0 < point ∧ point ≤ 16 then
      text.take point.toNat ++ '.' :: text.drop point.toNat
    else if -5 < point ∧ point ≤ 0 then
      '0' :: '.' :: List.replicate (-point).toNat '0' ++ text
    else
      let power := (if 0 < point then ['+'] else []) ++ (toString (point - 1)).toList
      match text with
      | [] => []
      | [c] => c :: 'e' :: power
      | c :: rest => c :: '.' :: rest ++ 'e' :: power
  String.ofList body

/-- The shortest text of a finite double. -/
def text (x : Binary64) : String :=
  let body := if x.isZero then "0.0" else x.shortest.layout
  if x.isNegative then "-" ++ body else body

end Provisioner.Binary64
