import Provisioner.Program.Basic
/-!
# Retrying

An operation is attempted a fixed number of times, at least once, with a fixed delay between two
attempts and none after the last.  The outcome is the first success or the last error.
-/

namespace Provisioner

/-- How often to attempt an operation. -/
structure Retry where
  /-- Attempts in all; zero counts as one. -/
  maxAttempts : UInt32
  /-- Time between two attempts. -/
  delay : Duration
deriving DecidableEq

namespace Retry

/-- Three attempts, ten seconds apart. -/
def standard : Retry := { maxAttempts := 3, delay := .ofSeconds 10 }

/-- How many attempts are made if none succeeds. -/
def attempts (r : Retry) : Nat := max r.maxAttempts.toNat 1

variable {I : Interface} {ε α : Type}

/-- Attempt the operation, and `n` more times while it fails. -/
def retrying (r : Retry) (operation : Program I ε α) : Nat → Program I ε α
  | 0 => operation
  | n + 1 => operation.handle fun _ => .sleep r.delay (retrying r operation n)

/-- Attempt an operation as often as the policy allows. -/
def run (r : Retry) (operation : Program I ε α) : Program I ε α :=
  r.retrying operation (r.attempts - 1)

end Retry

end Provisioner
