import Provisioner.Duration
/-!
# Programs

A program is a tree: it ends with a value or an error, or asks for an operation and goes on with
the answer, reads the clock, or sleeps.  What the operations are is left to an `Interface`, and
what answers them to a handler (`Program.run`), so that one program can be run against any
environment and reasoned about for all of them.  A program that never ends on its own is cut off
with `stall`, which no error handler sees.
-/

namespace Provisioner

/-- Operations that a program may ask for, and the type of the answer to each. -/
structure Interface where
  /-- The operations. -/
  Op : Type
  /-- The answers to an operation. -/
  Reply : Op → Type

/-- A program that uses the operations of `I` and ends with a value of `α` or an error of `ε`. -/
inductive Program (I : Interface) (ε α : Type) : Type where
  /-- Ends with a value. -/
  | done (value : α)
  /-- Ends with an error. -/
  | fail (error : ε)
  /-- Asks for an operation and goes on with its answer. -/
  | ask (op : I.Op) (next : I.Reply op → Program I ε α)
  /-- Reads the clock and goes on with the time. -/
  | clock (next : Duration → Program I ε α)
  /-- Sleeps and goes on. -/
  | sleep (length : Duration) (next : Program I ε α)
  /-- Never ends. -/
  | stall

namespace Program

variable {I : Interface} {ε ε' α β γ : Type}

/-- Go on with another program where this one ends with a value. -/
def bind (p : Program I ε α) (f : α → Program I ε β) : Program I ε β :=
  match p with
  | .done value => f value
  | .fail error => .fail error
  | .ask op next => .ask op fun reply => (next reply).bind f
  | .clock next => .clock fun now => (next now).bind f
  | .sleep length next => .sleep length (next.bind f)
  | .stall => .stall

instance : Monad (Program I ε) where
  pure := .done
  bind := Program.bind

/-- Go on with another program where this one ends with an error. -/
def handle (p : Program I ε α) (f : ε → Program I ε' α) : Program I ε' α :=
  match p with
  | .done value => .done value
  | .fail error => f error
  | .ask op next => .ask op fun reply => (next reply).handle f
  | .clock next => .clock fun now => (next now).handle f
  | .sleep length next => .sleep length (next.handle f)
  | .stall => .stall

/-- The same program with its errors changed. -/
def mapError (f : ε → ε') (p : Program I ε α) : Program I ε' α := p.handle fun e => .fail (f e)

/-- The program that ends with the value or the error that is given. -/
def ofExcept : Except ε α → Program I ε α
  | .ok value => .done value
  | .error error => .fail error

/-- Ask for one operation and end with its answer. -/
def request (op : I.Op) : Program I ε (I.Reply op) := .ask op .done

/-- Answer each operation by a program over other operations. -/
def interpret {J : Interface} (answer : (op : I.Op) → Program J Empty (I.Reply op)) :
    Program I ε α → Program J ε α
  | .done value => .done value
  | .fail error => .fail error
  | .ask op next =>
    ((answer op).handle fun e => e.elim).bind fun reply => interpret answer (next reply)
  | .clock next => .clock fun now => interpret answer (next now)
  | .sleep length next => .sleep length (interpret answer next)
  | .stall => .stall

/-- End with the outcome of a program as a value. -/
def attempt (p : Program I ε α) : Program I ε' (Except ε α) :=
  match p with
  | .done value => .done (.ok value)
  | .fail error => .done (.error error)
  | .ask op next => .ask op fun reply => (next reply).attempt
  | .clock next => .clock fun now => (next now).attempt
  | .sleep length next => .sleep length next.attempt
  | .stall => .stall

@[simp] theorem bind_eq (p : Program I ε α) (f : α → Program I ε β) : p >>= f = p.bind f := rfl

@[simp] theorem pure_eq (value : α) : (pure value : Program I ε α) = .done value := rfl

@[simp] theorem done_bind (value : α) (f : α → Program I ε β) : (done value).bind f = f value := rfl

@[simp] theorem fail_bind (error : ε) (f : α → Program I ε β) :
    (fail error).bind f = .fail error := rfl

@[simp] theorem bind_done (p : Program I ε α) : p.bind .done = p := by
  induction p with
  | done | fail | stall => rfl
  | ask op next ih => simp [bind, ih]
  | clock next ih => simp [bind, ih]
  | sleep length next ih => simp [bind, ih]

theorem bind_assoc (p : Program I ε α) (f : α → Program I ε β) (g : β → Program I ε γ) :
    (p.bind f).bind g = p.bind fun value => (f value).bind g := by
  induction p with
  | done | fail | stall => rfl
  | ask op next ih => simp [bind, ih]
  | clock next ih => simp [bind, ih]
  | sleep length next ih => simp [bind, ih]

instance : LawfulMonad (Program I ε) :=
  LawfulMonad.mk' _ bind_done (fun _ _ => rfl) bind_assoc

end Program

end Provisioner
