import Provisioner.Program.Basic
/-!
# Running programs

A handler answers the operations of a program, one after the other, from a state of its own; an
answer may take time.  Time passes only through answers and sleeps.  `Program.run` is where a
program gets to, and `Program.trace` the operations it asks for on the way, with their answers and
the times at which they were asked.
-/

namespace Provisioner

/-- The answer to one operation: how long it took and the state it leaves. -/
structure Turn (I : Interface) (σ : Type) (op : I.Op) where
  /-- The answer. -/
  reply : I.Reply op
  /-- How long the answer took. -/
  took : Duration
  /-- The state of the handler afterwards. -/
  state : σ

/-- How operations are answered, by the time and the state of the handler. -/
abbrev Handler (I : Interface) (σ : Type) : Type := (op : I.Op) → Duration → σ → Turn I σ op

/-- An operation that was asked for. -/
structure Event (I : Interface) where
  /-- The operation. -/
  op : I.Op
  /-- Its answer. -/
  reply : I.Reply op
  /-- When it was asked. -/
  start : Duration

/-- Where a program gets to. -/
structure Outcome (σ ε α : Type) where
  /-- How it ends; nothing when it does not. -/
  result : Option (Except ε α)
  /-- When it ends. -/
  finish : Duration
  /-- The state of the handler in the end. -/
  state : σ

namespace Program

variable {I : Interface} {σ ε α : Type}

/-- Run a program from a point in time and a state of its handler. -/
def run (h : Handler I σ) : Program I ε α → Duration → σ → Outcome σ ε α
  | .done value, now, s => ⟨some (.ok value), now, s⟩
  | .fail error, now, s => ⟨some (.error error), now, s⟩
  | .ask op next, now, s =>
    let turn := h op now s
    run h (next turn.reply) (now + turn.took) turn.state
  | .clock next, now, s => run h (next now) now s
  | .sleep length next, now, s => run h next (now + length) s
  | .stall, now, s => ⟨none, now, s⟩

/-- The operations that a program asks for when it is run, in order. -/
def trace (h : Handler I σ) : Program I ε α → Duration → σ → List (Event I)
  | .done _, _, _ | .fail _, _, _ | .stall, _, _ => []
  | .ask op next, now, s =>
    let turn := h op now s
    ⟨op, turn.reply, now⟩ :: trace h (next turn.reply) (now + turn.took) turn.state
  | .clock next, now, s => trace h (next now) now s
  | .sleep length next, now, s => trace h next (now + length) s

end Program

end Provisioner
