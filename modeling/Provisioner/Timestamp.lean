import Provisioner.Json.Number
import Provisioner.Text.Blank
/-!
# Points in time

A date and a time of day in UTC, to the nanosecond.  Reading takes a loose form of the Internet
date-time format: any offset, white space around the parts, numbers without their leading zeros,
and years before and after those of four digits with a sign.  Writing gives the strict form in UTC
with no more groups of three decimal places than needed.
-/

namespace Provisioner

/-- A point in time, in UTC. -/
structure Timestamp where
  /-- Days since the first of January of the year zero. -/
  day : Int
  /-- Seconds since midnight. -/
  second : Nat
  /-- Nanoseconds within the second; a leap second counts on past a thousand million. -/
  nanosecond : Nat
deriving DecidableEq

namespace Timestamp

/-- Whether a year has a twenty-ninth of February. -/
def isLeapYear (year : Int) : Bool := (year % 4 == 0 && year % 100 != 0) || year % 400 == 0

/-- Days of a month. -/
def daysInMonth (year : Int) (month : Nat) : Nat :=
  match month with
  | 2 => if isLeapYear year then 29 else 28
  | 4 | 6 | 9 | 11 => 30
  | _ => 31

/-- Days in front of the first of January of a year. -/
def daysBeforeYear (year : Int) : Int :=
  let last := year - 1
  365 * year + (last / 4 - last / 100 + last / 400) + 1

/-- Days in front of a month within its year. -/
def daysBeforeMonth (year : Int) : Nat → Nat
  | 0 | 1 => 0
  | month + 1 => daysBeforeMonth year month + daysInMonth year month

/-! ## Reading -/

/-- A natural of one to `width` digits that starts a text. -/
def digits? (width : Nat) (text : List Char) : Option (Nat × List Char) :=
  match Json.takeDigits (text.take width) with
  | ([], _) => none
  | (digits, _) => some (digits.foldl (fun n d => n * 10 + d) 0, text.drop digits.length)

/-- A natural of one or two digits, after white space. -/
def part? (text : List Char) : Option (Nat × List Char) := digits? 2 (Text.trimStart text)

/-- A year, after white space: up to four digits, or a sign and any number of digits. -/
def year? (text : List Char) : Option (Int × List Char) :=
  match Text.trimStart text with
  | '-' :: text => (digits? text.length text).map fun (year, rest) => (-year, rest)
  | '+' :: text => (digits? text.length text).map fun (year, rest) => (year, rest)
  | text => (digits? 4 text).map fun (year, rest) => (year, rest)

/-- The rest of a text after one of the characters. -/
def expect? (allowed : List Char) : List Char → Option (List Char)
  | c :: rest => if c ∈ allowed then some rest else none
  | [] => none

/-- Decimal places of a second as nanoseconds; places past the ninth are left out. -/
def fraction? : List Char → Option (Nat × List Char)
  | '.' :: text =>
    match Json.takeDigits text with
    | ([], _) => none
    | (digits, rest) =>
      let nine := (digits ++ List.replicate 9 0).take 9
      some (nine.foldl (fun n d => n * 10 + d) 0, rest)
  | text => some (0, text)

/-- Two digits that start a text, as a natural. -/
def twoDigits? : List Char → Option (Nat × List Char)
  | a :: b :: rest => do
    let a ← Json.digitValue? a
    let b ← Json.digitValue? b
    some (a * 10 + b, rest)
  | _ => none

/-- An offset from UTC that starts a text, in minutes: a name of UTC, or a sign, hours and minutes,
with colons and white space between the two. -/
def offset? (text : List Char) : Option (Int × List Char) :=
  if (text.take 3).map Char.toLower = ['u', 't', 'c'] then some (0, text.drop 3)
  else
    match text with
    | 'Z' :: rest | 'z' :: rest => some (0, rest)
    | sign :: text => do
      let negative ←
        if sign = '-' ∨ sign = '−' then some true else if sign = '+' then some false else none
      let (hour, text) ← twoDigits? text
      let (minute, text) ← twoDigits? (text.dropWhile fun c => c == ':' || Text.isWhite c)
      if hour < 24 ∧ minute < 60 then
        let total : Int := hour * 60 + minute
        some (if negative then -total else total, text)
      else none
    | [] => none

/-- The first and the last year of the calendar. -/
def years : Int × Int := (-262143, 262142)

/-- The point in time that a text spells. -/
def ofString? (s : String) : Option Timestamp := do
  let (year, text) ← year? s.toList
  let text ← expect? ['-'] (Text.trimStart text)
  let (month, text) ← part? text
  let text ← expect? ['-'] (Text.trimStart text)
  let (day, text) ← part? text
  let text ← expect? ['T', 't', ' '] text
  let (hour, text) ← part? text
  let text ← expect? [':'] (Text.trimStart text)
  let (minute, text) ← part? text
  let text ← expect? [':'] (Text.trimStart text)
  let (second, text) ← part? text
  let (fraction, text) ← fraction? text
  let (offset, text) ← offset? (Text.trimStart text)
  if Text.trimStart text ≠ [] then none
  if year < years.1 ∨ years.2 < year then none
  if month < 1 ∨ 12 < month ∨ day < 1 ∨ daysInMonth year month < day then none
  if 23 < hour ∨ 59 < minute ∨ 60 < second then none
  let days : Int := daysBeforeYear year + daysBeforeMonth year month + (day - 1 : Nat)
  let minutes : Int := days * 1440 + hour * 60 + minute - offset
  let day := minutes.fdiv 1440
  if day < daysBeforeYear years.1 ∨ daysBeforeYear (years.2 + 1) ≤ day then none
  let leap := second = 60
  some {
    day
    second := (minutes.fmod 1440).toNat * 60 + (if leap then 59 else second)
    nanosecond := fraction + if leap then 1000000000 else 0 }

/-! ## Writing -/

/-- A natural in at least `width` digits. -/
def padded (width n : Nat) : String :=
  let digits := Nat.toDigits 10 n
  String.ofList (List.replicate (width - digits.length) '0' ++ digits)

/-- The year of a day, found by stepping from a guess. -/
def yearOf (day : Int) : Nat → Int → Int
  | 0, guess => guess
  | steps + 1, guess =>
    if day < daysBeforeYear guess then yearOf day steps (guess - 1)
    else if daysBeforeYear (guess + 1) ≤ day then yearOf day steps (guess + 1)
    else guess

/-- Month and day of the month of a day counted within its year. -/
def monthOf (year : Int) : Nat → Nat → Nat → Nat × Nat
  | 0, month, day => (month, day + 1)
  | steps + 1, month, day =>
    if day < daysInMonth year month then (month, day + 1)
    else monthOf year steps (month + 1) (day - daysInMonth year month)

/-- Decimal places in groups of three, none when they are all zero. -/
def fractionText (n : Nat) : String :=
  if n = 0 then ""
  else if n % 1000000 = 0 then "." ++ padded 3 (n / 1000000)
  else if n % 1000 = 0 then "." ++ padded 6 (n / 1000)
  else "." ++ padded 9 n

/-- The text of a point in time. -/
def text (t : Timestamp) : String :=
  let year := yearOf t.day 4 ((t.day * 400).fdiv 146097)
  let (month, day) := monthOf year 11 1 (t.day - daysBeforeYear year).toNat
  let leap := 1000000000 ≤ t.nanosecond
  let second := t.second % 60 + if leap then 1 else 0
  let yearText :=
    if year < 0 then "-" ++ padded 4 (-year).toNat
    else (if 9999 < year then "+" else "") ++ padded 4 year.toNat
  yearText ++ "-" ++ padded 2 month ++ "-" ++ padded 2 day ++ "T" ++
    padded 2 (t.second / 3600) ++ ":" ++ padded 2 (t.second / 60 % 60) ++ ":" ++ padded 2 second ++
    fractionText (t.nanosecond % 1000000000) ++ "Z"

end Timestamp

end Provisioner
