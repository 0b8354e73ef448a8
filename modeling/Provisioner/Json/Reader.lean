import Provisioner.Json.Number
/-!
# Reading JSON text

The reader is an automaton that takes one character at a time.  Its state holds the values read so
far, the containers still open and what may come next, so reading a text that goes on is going on
from the state that its first part leads to (`State.feed_append`).

A text may hold several values one after the other, with or without white space between them; a
number or a word at the top level must be followed by white space, by the end or by a character
that can stand next to a value.
-/

namespace Provisioner.Json

/-- Why a text cannot be read. -/
inductive ReadError where
  /-- A character that nothing expected here can start with. -/
  | unexpected (c : Char)
  /-- The text ends inside a value. -/
  | unexpectedEnd
  /-- More containers are open at once than allowed. -/
  | tooDeep
  /-- A number that breaks the grammar or is too large. -/
  | number (cause : NumberError)
  /-- A control character inside a string. -/
  | controlCharacter (c : Char)
  /-- A backslash in a string that starts none of the escapes. -/
  | badEscape (c : Char)
  /-- Half of a pair of surrogates without the other half. -/
  | loneSurrogate
  /-- Not exactly one value where one is wanted. -/
  | notSingle (count : Nat)
  /-- Bytes that are not a text. -/
  | notText
deriving DecidableEq, Repr

namespace ReadError

/-- What is wrong, in words. -/
def message : ReadError → String
  | .unexpected c => "unexpected character " ++ String.ofList ['\'', c, '\'']
  | .unexpectedEnd => "unexpected end of text"
  | .tooDeep => "too many nested containers"
  | .number .malformed => "invalid number"
  | .number .tooLarge => "number out of range"
  | .controlCharacter _ => "control character in a string"
  | .badEscape _ => "invalid escape"
  | .loneSurrogate => "lone surrogate in a string"
  | .notSingle _ => "expected a single value"
  | .notText => "invalid bytes"

end ReadError

/-- A container that is still open. -/
inductive Frame where
  /-- An array with the items read so far, the last one first. -/
  | array (items : List Json)
  /-- An object with the members read so far, the last one first, and the name whose value is
  due. -/
  | object (members : Members) (key : String)

/-- Where in an escape the reader of a string stands. -/
inductive Escape where
  /-- Not in one. -/
  | none
  /-- After the backslash. -/
  | start
  /-- Inside the four digits: how many are due, the value so far, and the first half of a pair of
  surrogates if this is the second. -/
  | digits (due value : Nat) (high : Option Nat)
  /-- After the first half of a pair of surrogates. -/
  | low (high : Nat)
  /-- After the backslash of the second half. -/
  | lowStart (high : Nat)

/-- What may come next. -/
inductive Mode where
  /-- A value at the top level, or the end. -/
  | top
  /-- After a number or a word at the top level. -/
  | topBoundary
  /-- A value. -/
  | item
  /-- A value or the end of the array just opened. -/
  | firstItem
  /-- A name or the end of the object just opened. -/
  | firstKey
  /-- A name. -/
  | nextKey
  /-- The colon after a name. -/
  | colon (key : String)
  /-- A comma or the end of the innermost container. -/
  | after
  /-- The rest of a string: whether it is a name, and its characters so far, the last one first. -/
  | text (isKey : Bool) (escape : Escape) (soFar : List Char)
  /-- The rest of a word and the value that it stands for. -/
  | word (rest : List Char) (value : Json)
  /-- The rest of a number, with its characters so far, the last one first. -/
  | number (soFar : List Char)

/-- The state of the reader. -/
structure State where
  /-- What may come next. -/
  mode : Mode
  /-- The open containers, the innermost one first. -/
  frames : List Frame
  /-- The complete values, the last one first. -/
  done : List Json

namespace State

/-- Before the first character. -/
def start : State := ⟨.top, [], []⟩

/-- A complete value goes to the innermost open container, or to the values read.  `bare` says that
the value has no closing character of its own. -/
def deliver (s : State) (bare : Bool) (value : Json) : State :=
  match s.frames with
  | [] => ⟨if bare then .topBoundary else .top, [], value :: s.done⟩
  | .array items :: outer => ⟨.after, .array (value :: items) :: outer, s.done⟩
  | .object members key :: outer => ⟨.after, .object ((key, value) :: members) key :: outer, s.done⟩

/-- Open a container, unless too many are open. -/
def push (limit : Nat) (s : State) (mode : Mode) (frame : Frame) : Except ReadError State :=
  if s.frames.length + 1 < limit then .ok { s with mode := mode, frames := frame :: s.frames }
  else .error .tooDeep

/-- White space between the parts of a text. -/
def isSpace (c : Char) : Bool := c == ' ' || c == '\t' || c == '\n' || c == '\r'

/-- A character that a number can hold. -/
def isNumberChar (c : Char) : Bool :=
  c.isDigit || c == '-' || c == '+' || c == '.' || c == 'e' || c == 'E'

/-- Start the value that begins with `c`. -/
def startValue (limit : Nat) (s : State) (c : Char) : Except ReadError State :=
  if c = '"' then .ok { s with mode := .text false .none [] }
  else if c = '[' then s.push limit .firstItem (.array [])
  else if c = '\x7b' then s.push limit .firstKey (.object [] "")
  else if c = 't' then .ok { s with mode := .word ['r', 'u', 'e'] (.bool true) }
  else if c = 'f' then .ok { s with mode := .word ['a', 'l', 's', 'e'] (.bool false) }
  else if c = 'n' then .ok { s with mode := .word ['u', 'l', 'l'] .null }
  else if c.isDigit ∨ c = '-' then .ok { s with mode := .number [c] }
  else .error (.unexpected c)

/-- Close the innermost container with `c`. -/
def close (s : State) (c : Char) : Except ReadError State :=
  match s.frames with
  | .array items :: outer =>
    if c = ']' then .ok ({ s with frames := outer }.deliver false (.array items.reverse))
    else .error (.unexpected c)
  | .object members _ :: outer =>
    if c = '\x7d' then .ok ({ s with frames := outer }.deliver false (.object members.reverse))
    else .error (.unexpected c)
  | [] => .error (.unexpected c)

/-- Go on after a comma in the innermost container. -/
def separate (s : State) : State :=
  match s.frames with
  | .object .. :: _ => { s with mode := .nextKey }
  | _ => { s with mode := .item }

/-- A character that can follow a number or a word at the top level. -/
def isBoundary (c : Char) : Bool :=
  isSpace c || c == '"' || c == '[' || c == ']' || c == '\x7b' || c == '\x7d' || c == ',' ||
    c == ':'

/-- Take a character that is not part of a string, a word or a number. -/
def between (limit : Nat) (s : State) (c : Char) : Except ReadError State :=
  match s.mode with
  | .topBoundary =>
    if isSpace c then .ok { s with mode := .top }
    else if isBoundary c then startValue limit { s with mode := .top } c
    else .error (.unexpected c)
  | .top | .item => if isSpace c then .ok s else s.startValue limit c
  | .firstItem =>
    if isSpace c then .ok s else if c = ']' then s.close c else s.startValue limit c
  | .firstKey =>
    if isSpace c then .ok s
    else if c = '"' then .ok { s with mode := .text true .none [] }
    else if c = '\x7d' then s.close c
    else .error (.unexpected c)
  | .nextKey =>
    if isSpace c then .ok s
    else if c = '"' then .ok { s with mode := .text true .none [] }
    else .error (.unexpected c)
  | .colon key =>
    if isSpace c then .ok s
    else if c = ':' then
      match s.frames with
      | .object members _ :: outer =>
        .ok { s with mode := .item, frames := .object members key :: outer }
      | _ => .error (.unexpected c)
    else .error (.unexpected c)
  | .after =>
    if isSpace c then .ok s else if c = ',' then .ok s.separate else s.close c
  | .text .. | .word .. | .number .. => .error (.unexpected c)

/-- A complete string is a name or a value. -/
def deliverText (s : State) (isKey : Bool) (soFar : List Char) : State :=
  let content := String.ofList soFar.reverse
  if isKey then { s with mode := .colon content } else s.deliver false (.string content)

/-- The character that a single letter after a backslash stands for. -/
def simpleEscape? (c : Char) : Option Char :=
  match c with
  | '"' => some '"'
  | '\\' => some '\\'
  | '/' => some '/'
  | 'b' => some '\x08'
  | 'f' => some '\x0c'
  | 'n' => some '\n'
  | 'r' => some '\r'
  | 't' => some '\t'
  | _ => none

/-- The value of a hexadecimal digit. -/
def hexValue? (c : Char) : Option Nat :=
  if c.isDigit then some (c.toNat - 48)
  else if 'a' ≤ c ∧ c ≤ 'f' then some (c.toNat - 87)
  else if 'A' ≤ c ∧ c ≤ 'F' then some (c.toNat - 55)
  else none

/-- What four hexadecimal digits amount to: a character, or the first half of a pair. -/
def endDigits (value : Nat) (high : Option Nat) : Except ReadError (Char ⊕ Nat) :=
  match high with
  | some high =>
    if 0xDC00 ≤ value ∧ value ≤ 0xDFFF then
      .ok (.inl (Char.ofNat (0x10000 + (high - 0xD800) * 0x400 + (value - 0xDC00))))
    else .error .loneSurrogate
  | none =>
    if 0xDC00 ≤ value ∧ value ≤ 0xDFFF then .error .loneSurrogate
    else if 0xD800 ≤ value ∧ value ≤ 0xDBFF then .ok (.inr value)
    else .ok (.inl (Char.ofNat value))

/-- Take a character inside a string. -/
def inText (s : State) (isKey : Bool) (soFar : List Char) (c : Char) :
    Escape → Except ReadError State
  | .none =>
    if c = '"' then .ok (s.deliverText isKey soFar)
    else if c = '\\' then .ok { s with mode := .text isKey .start soFar }
    else if c.toNat < 0x20 then .error (.controlCharacter c)
    else .ok { s with mode := .text isKey .none (c :: soFar) }
  | .start =>
    if c = 'u' then .ok { s with mode := .text isKey (.digits 4 0 none) soFar }
    else
      match simpleEscape? c with
      | some d => .ok { s with mode := .text isKey .none (d :: soFar) }
      | none => .error (.badEscape c)
  | .digits due value high =>
    match hexValue? c with
    | none => .error (.badEscape c)
    | some d =>
      let value := value * 16 + d
      if 1 < due then .ok { s with mode := .text isKey (.digits (due - 1) value high) soFar }
      else do
        match ← endDigits value high with
        | .inl d => .ok { s with mode := .text isKey .none (d :: soFar) }
        | .inr high => .ok { s with mode := .text isKey (.low high) soFar }
  | .low high =>
    if c = '\\' then .ok { s with mode := .text isKey (.lowStart high) soFar }
    else .error .loneSurrogate
  | .lowStart high =>
    if c = 'u' then .ok { s with mode := .text isKey (.digits 4 0 (some high)) soFar }
    else .error .loneSurrogate

/-- A number that has ended is a value. -/
def deliverNumber (s : State) (soFar : List Char) : Except ReadError State :=
  match ofNumeral soFar.reverse with
  | .ok value => .ok (s.deliver true value)
  | .error cause => .error (.number cause)

/-- Take one character. -/
def step (limit : Nat) (s : State) (c : Char) : Except ReadError State :=
  match s.mode with
  | .text isKey escape soFar => s.inText isKey soFar c escape
  | .word (d :: rest) value =>
    if c = d then
      if rest = [] then .ok (s.deliver true value) else .ok { s with mode := .word rest value }
    else .error (.unexpected c)
  | .number soFar =>
    if isNumberChar c then .ok { s with mode := .number (c :: soFar) }
    else do (← s.deliverNumber soFar).between limit c
  | _ => s.between limit c

/-- Take the characters of a text in order. -/
def feed (limit : Nat) (s : State) (text : List Char) : Except ReadError State :=
  text.foldlM (step limit) s

/-- The values read, once the text has ended. -/
def finish (s : State) : Except ReadError (List Json) := do
  let s ← match s.mode with
    | .number soFar => s.deliverNumber soFar
    | _ => .ok s
  match s.mode, s.frames with
  | .top, [] | .topBoundary, [] => .ok s.done.reverse
  | _, _ => .error .unexpectedEnd

/-- Reading a text that goes on is going on from where its first part leads. -/
theorem feed_append (limit : Nat) (s : State) (a b : List Char) :
    s.feed limit (a ++ b) = (s.feed limit a).bind fun t => t.feed limit b := by
  simp [feed, List.foldlM_append, Bind.bind]

end State

/-- How many containers may be open at once, the last one excluded. -/
def depthLimit : Nat := 128

/-- The values of a text, at most `limit` deep. -/
def readAllWithin (limit : Nat) (text : List Char) : Except ReadError (List Json) := do
  (← State.start.feed limit text).finish

/-- The values of a text, one after the other. -/
def readAll (text : List Char) : Except ReadError (List Json) := readAllWithin depthLimit text

/-- The single value of a text, at most `limit` deep. -/
def readWithin (limit : Nat) (text : List Char) : Except ReadError Json := do
  match ← readAllWithin limit text with
  | [value] => .ok value
  | values => .error (.notSingle values.length)

/-- The single value of a text. -/
def read (text : List Char) : Except ReadError Json := readWithin depthLimit text

end Provisioner.Json
