/-!
# Durations

A length of time in whole nanoseconds.  A point in time is its distance from the start of a run.
-/

namespace Provisioner

/-- A length of time. -/
structure Duration where
  /-- Whole nanoseconds. -/
  nanoseconds : Nat
deriving DecidableEq, Inhabited

namespace Duration

/-- No time at all. -/
def zero : Duration := ⟨0⟩

instance : OfNat Duration 0 := ⟨zero⟩

instance : Add Duration := ⟨fun a b => ⟨a.nanoseconds + b.nanoseconds⟩⟩

instance : Sub Duration := ⟨fun a b => ⟨a.nanoseconds - b.nanoseconds⟩⟩

instance : LE Duration := ⟨fun a b => a.nanoseconds ≤ b.nanoseconds⟩

instance : LT Duration := ⟨fun a b => a.nanoseconds < b.nanoseconds⟩

instance (a b : Duration) : Decidable (a ≤ b) := inferInstanceAs (Decidable (a.nanoseconds ≤ _))

instance (a b : Duration) : Decidable (a < b) := inferInstanceAs (Decidable (a.nanoseconds < _))

/-- So many seconds. -/
def ofSeconds (n : Nat) : Duration := ⟨n * 1000000000⟩

/-- So many thousandths of a second. -/
def ofMilliseconds (n : Nat) : Duration := ⟨n * 1000000⟩

/-- Whole seconds in a duration. -/
def seconds (d : Duration) : Nat := d.nanoseconds / 1000000000

/-- Whole thousandths of a second in a duration. -/
def milliseconds (d : Duration) : Nat := d.nanoseconds / 1000000

/-- How many steps of a positive length reach a duration. -/
def steps (length total : Duration) : Nat :=
  (total.nanoseconds + length.nanoseconds - 1) / length.nanoseconds

/-- A fraction of `width` decimal places after its point, without the zeros that end it; nothing
for zero. -/
def fractionText (width fraction : Nat) : List Char :=
  let digits := Nat.toDigits 10 fraction
  let padded := List.replicate (width - digits.length) '0' ++ digits
  match padded.reverse.dropWhile (· == '0') with
  | [] => []
  | kept => '.' :: kept.reverse

/-- A count of a unit with `width` decimal places, followed by the name of the unit. -/
def unitText (n width : Nat) (unit : String) : String :=
  toString (n / Nat.pow 10 width) ++
    String.ofList (fractionText width (n % Nat.pow 10 width)) ++ unit

/-- A duration in the greatest of seconds, milliseconds, microseconds and nanoseconds that it is at
least one of, with as many decimal places as it needs. -/
def text (d : Duration) : String :=
  let n := d.nanoseconds
  if 1000000000 ≤ n then unitText n 9 "s"
  else if 1000000 ≤ n then unitText n 6 "ms"
  else if 1000 ≤ n then unitText n 3 "µs"
  else unitText n 0 "ns"

@[simp] theorem nanoseconds_zero : (0 : Duration).nanoseconds = 0 := rfl

@[simp] theorem nanoseconds_add (a b : Duration) :
    (a + b).nanoseconds = a.nanoseconds + b.nanoseconds := rfl

@[simp] theorem nanoseconds_sub (a b : Duration) :
    (a - b).nanoseconds = a.nanoseconds - b.nanoseconds := rfl

theorem le_iff {a b : Duration} : a ≤ b ↔ a.nanoseconds ≤ b.nanoseconds := Iff.rfl

@[ext] theorem ext {a b : Duration} (h : a.nanoseconds = b.nanoseconds) : a = b := by
  cases a; cases b; simp_all

@[simp] theorem add_zero (a : Duration) : a + 0 = a := by ext; simp

example : (ofSeconds 300).text = "300s" := by decide +kernel
example : (ofMilliseconds 1500).text = "1.5s" := by decide +kernel
example : (⟨1000⟩ : Duration).text = "1µs" := by decide +kernel

end Duration

end Provisioner
