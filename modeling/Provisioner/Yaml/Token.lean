/-!
# Tokens of YAML text

Both versions of the language that are read here cut a text into the same tokens; they differ in
where the cuts may be made.  The start and end of a block collection are tokens of their own,
found from indentation.
-/

namespace Provisioner.Yaml

/-- Why a text is not YAML: what is wrong, and where. -/
structure SyntaxError where
  /-- What is wrong. -/
  reason : String
  /-- Line of the fault, counted from one. -/
  line : Nat
  /-- Column of the fault, counted from one. -/
  column : Nat
deriving DecidableEq

/-- What is wrong and where, in words. -/
def SyntaxError.message (e : SyntaxError) : String :=
  e.reason ++ " at line " ++ toString e.line ++ " column " ++ toString e.column

/-- How a scalar is written. -/
inductive Style where
  | plain
  | singleQuoted
  | doubleQuoted
  | literal
  | folded
deriving DecidableEq

/-- What happens to the line breaks that end a block scalar. -/
inductive Chomping where
  | clip
  | strip
  | keep
deriving DecidableEq

/-- A token. -/
inductive Token where
  /-- The directive that names the version of the language. -/
  | versionDirective
  /-- A directive that gives a tag handle its meaning. -/
  | tagDirective (handle meaning : String)
  | documentStart
  | documentEnd
  | streamEnd
  | blockSequenceStart
  | blockMappingStart
  | blockEnd
  | flowSequenceStart
  | flowSequenceEnd
  | flowMappingStart
  | flowMappingEnd
  | blockEntry
  | flowEntry
  | key
  | value
  | alias (name : String)
  | anchor (name : String)
  | tag (handle suffix : String)
  | scalar (style : Style) (text : String)
deriving DecidableEq

/-- A token with the column where it starts. -/
structure Placed where
  token : Token
  column : Nat
deriving DecidableEq

/-- A line feed or a carriage return. -/
def isBreak (c : Char) : Bool := c == '\n' || c == '\r'

/-- A space or a tab. -/
def isBlank (c : Char) : Bool := c == ' ' || c == '\t'

/-- An indicator of flow collections. -/
def isFlow (c : Char) : Bool := c == ',' || c == '[' || c == ']' || c == '\x7b' || c == '\x7d'

/-- A letter, a digit, an underscore or a hyphen. -/
def isWordChar (c : Char) : Bool := c.isAlphanum || c == '_' || c == '-'

/-- The value of a hexadecimal digit. -/
def hexValue? (c : Char) : Option Nat :=
  if c.isDigit then some (c.toNat - 48)
  else if 'a' ≤ c ∧ c ≤ 'f' then some (c.toNat - 87)
  else if 'A' ≤ c ∧ c ≤ 'F' then some (c.toNat - 55)
  else none

/-- The character that one letter after a backslash stands for in double quotes. -/
def simpleEscape? (c : Char) : Option Char :=
  match c with
  | '0' => some '\x00'
  | 'a' => some '\x07'
  | 'b' => some '\x08'
  | 't' | '\t' => some '\t'
  | 'n' => some '\n'
  | 'v' => some '\x0b'
  | 'f' => some '\x0c'
  | 'r' => some '\r'
  | 'e' => some '\x1b'
  | ' ' => some ' '
  | '"' => some '"'
  | '/' => some '/'
  | '\\' => some '\\'
  | 'N' => some '\u0085'
  | '_' => some '\u00a0'
  | 'L' => some '\u2028'
  | 'P' => some '\u2029'
  | _ => none

/-- How many hexadecimal digits follow a letter after a backslash. -/
def escapeDigits? (c : Char) : Option Nat :=
  match c with
  | 'x' => some 2
  | 'u' => some 4
  | 'U' => some 8
  | _ => none

/-- The value of as many hexadecimal digits as asked for at the start of a text. -/
def hexNumber? : Nat → Nat → List Char → Option Nat
  | 0, value, _ => some value
  | _ + 1, _, [] => none
  | n + 1, value, c :: rest =>
    match hexValue? c with
    | some d => hexNumber? n (value * 16 + d) rest
    | none => none

end Provisioner.Yaml
