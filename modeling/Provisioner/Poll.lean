import Provisioner.Error
import Provisioner.Program.Basic
/-!
# Bounded polling

A condition is evaluated at once and then again after every interval, until it gives a value or an
error or the deadline has passed.  The deadline is looked at after an evaluation only, so a value
that is found late still counts.

With a positive interval the number of evaluations is bounded by the interval and the deadline
alone.  With an interval of zero and a clock that stands still there is no bound: the program then
follows `patience` evaluations and stalls.
-/

namespace Provisioner

/-- How long to wait for a condition. -/
structure Poll where
  /-- Time from the end of an evaluation to the next one. -/
  interval : Duration
  /-- Time after which no further evaluation is made. -/
  timeout : Duration
  /-- How many evaluations are followed when the interval is zero. -/
  patience : Nat := 0x7FFFFFFFFFFFFFFF
deriving DecidableEq

namespace Poll

/-- Once a second for five minutes. -/
def standard : Poll := { interval := .ofSeconds 1, timeout := .ofSeconds 300 }

/-- How many evaluations can be made: one at the start and one after each of the intervals that
together reach the deadline. -/
def rounds (p : Poll) : Nat :=
  if p.interval = 0 then if p.timeout = 0 then 1 else p.patience
  else Duration.steps p.interval p.timeout + 1

variable {I : Interface} {α : Type}

/-- Evaluate the condition up to `n` more times. -/
def waitRounds (p : Poll) (description : String) (check : Program I Error (Option α))
    (start : Duration) : Nat → Program I Error α
  | 0 => .stall
  | n + 1 => do
    match ← check with
    | some value => return value
    | none => .clock fun now =>
      if p.timeout ≤ now - start then .fail (.timeout description p.timeout)
      else .sleep p.interval (waitRounds p description check start n)

/-- Wait until the condition gives a value. -/
def waitFor (p : Poll) (description : String) (check : Program I Error (Option α)) :
    Program I Error α :=
  .clock fun start => p.waitRounds description check start p.rounds

/-- Wait until the condition holds. -/
def waitUntil (p : Poll) (description : String) (check : Program I Error Bool) :
    Program I Error Unit :=
  p.waitFor description do return if ← check then some () else none

end Poll

end Provisioner
