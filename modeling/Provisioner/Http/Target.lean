import Provisioner.Http.Address
import Provisioner.Text.Search
/-!
# Targets of requests

The target of a request is a path and, after a question mark, parameters.  The parameters are
written as a form, each after an ampersand; the path is taken as it is, so that a question mark or
a number sign in it ends it, and a character that no path may hold makes it no target at all.
-/

namespace Provisioner.Http

open Text.Utf8 (Bytes)

namespace Form

/-- A hexadecimal digit in a capital letter. -/
def hexDigit (n : Nat) : Char := "0123456789ABCDEF".toList.getD n '0'

/-- Characters that stand for themselves. -/
def isPlain (c : Char) : Bool := c.isAlphanum || c == '*' || c == '-' || c == '.' || c == '_'

/-- A text in a form: a blank is a plus sign, bytes of other characters are escaped. -/
def escape (text : List Char) : List Char :=
  text.flatMap fun c =>
    if isPlain c then [c]
    else if c == ' ' then ['+']
    else (Text.Utf8.encodeChar c).flatMap fun b =>
      ['%', hexDigit (b.toNat / 16), hexDigit (b.toNat % 16)]

/-- The text that a text in a form stands for. -/
def unescape (text : List Char) : List Char :=
  let spaced := text.map fun c => if c == '+' then ' ' else c
  (Text.Utf8.decode? (Address.percentDecode spaced)).getD spaced

/-- A name and a value as they stand in a form. -/
def encodePair (parameter : String × String) : List Char :=
  escape parameter.1.toList ++ '=' :: escape parameter.2.toList

/-- Parameters as a form. -/
def encode (parameters : List (String × String)) : List Char :=
  ['&'].intercalate (parameters.map encodePair)

/-- Parameters as they go on a text. -/
def goOn (parameters : List (String × String)) : List Char :=
  parameters.flatMap fun parameter => '&' :: encodePair parameter

/-- A name and a value of a form. -/
def decodePair (text : List Char) : String × String :=
  match Text.splitFirst '=' text with
  | some (name, value) => (String.ofList (unescape name), String.ofList (unescape value))
  | none => (String.ofList (unescape text), "")

/-- The parameters of a form. -/
def decode (text : List Char) : List (String × String) :=
  ((text.splitOn '&').filter fun piece => !piece.isEmpty).map decodePair

end Form

/-- Characters that a path may hold. -/
def isPathChar (c : Char) : Bool :=
  '!' ≤ c && c != '#' && c != '<' && c != '>' && c != '?' && c.toNat != 0x60

/-- Characters that parameters may hold. -/
def isQueryChar (c : Char) : Bool :=
  '!' ≤ c && c != '"' && c != '#' && c != '<' && c != '>'

/-- The path and the parameters that a text stands for, if it is a target. -/
def parts? (text : List Char) : Option (String × List (String × String)) :=
  let start := text.takeWhile fun c => c != '?' && c != '#'
  let query := match text.drop start.length with
    | '?' :: rest => rest.takeWhile (· != '#')
    | _ => []
  if start.all isPathChar && query.all isQueryChar then
    some (String.ofList start, Form.decode query)
  else none

/-- The target of a path alone. -/
def bare? (path : String) : Option (String × List (String × String)) := parts? path.toList

/-- The target of a path as it is given, followed by parameters. -/
def target? (path : String) (parameters : List (String × String)) :
    Option (String × List (String × String)) :=
  parts? (path.toList ++ '?' :: Form.goOn parameters)

end Provisioner.Http
