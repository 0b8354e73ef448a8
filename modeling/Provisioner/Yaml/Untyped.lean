import Provisioner.Text.Search
import Provisioner.Yaml.Record
import Provisioner.Yaml.Value
/-!
# YAML 1.1 documents as JSON

Reading a document without a wanted type: the text of a plain scalar decides what it means.  The
keys of mappings have to be texts, all different, and collections may be nested 128 deep.
-/

namespace Provisioner.Yaml

/-- Why a text has no JSON. -/
inductive UntypedError where
  /-- The nodes cannot be read. -/
  | record (cause : RecordError)
  /-- A scalar does not fit its tag. -/
  | tag (text : String)
  /-- A mapping has a key that is not a text, or the same key twice. -/
  | key
  /-- Collections are nested too deep. -/
  | depth
deriving DecidableEq

/-- What is wrong, in words. -/
def UntypedError.message : UntypedError → String
  | .record cause => cause.message
  | .tag text => "invalid value " ++ text
  | .key => "invalid key in mapping"
  | .depth => "recursion limit exceeded"

/-- The integer that a text spells. -/
def wholeNumber? (text : List Char) : Option Int :=
  match text with
  | '-' :: '+' :: _ => none
  | '-' :: digits => (natural? digits).bind fun n => if n ≤ 0x8000000000000000 then some (-n) else none
  | text => (natural? text).map fun n => (n : Int)

/-- An infinity or a non-number that a text names. -/
def special? (text : List Char) : Option Binary64 :=
  let isOneOf (names : List String) : Bool := names.any fun name => name.toList == text
  if isOneOf [".inf", ".Inf", ".INF", "+.inf", "+.Inf", "+.INF"] then
    some (Binary64.ofMagnitude false Binary64.infinityBits)
  else if isOneOf ["-.inf", "-.Inf", "-.INF"] then
    some (Binary64.ofMagnitude true Binary64.infinityBits)
  else if isOneOf [".nan", ".NaN", ".NAN"] then
    some (Binary64.ofMagnitude false (Binary64.infinityBits + 0x8000000000000))
  else none

/-- Whether a text is digits after a needless zero. -/
def isPadded (text : List Char) : Bool :=
  let digits := match text with
    | '-' :: rest | '+' :: rest => rest
    | rest => rest
  match digits with
  | '0' :: rest => !rest.isEmpty && rest.all Char.isDigit
  | _ => false

/-- The number that a text spells. -/
def number? (text : List Char) : Option Json :=
  match wholeNumber? text, special? text with
  | some n, _ => some (.int n)
  | none, some x => some (.float x)
  | none, none =>
    match double? text with
    | some (some x) => if isPadded text then none else some (.float x)
    | _ => none

/-- What a plain scalar means. -/
def untypedPlain (text : String) : Json :=
  if text = "" ∨ isNullText text then .null
  else
    match truth? text with
    | some b => .bool b
    | none => (number? text.toList).getD (.string text)

/-- What a scalar means, by its tag and the way it is written. -/
def untypedScalar (p : Properties) (style : Style) (text : String) : Except UntypedError Json :=
  let fits (value : Option Json) : Except UntypedError Json :=
    match value with
    | some value => .ok value
    | none => .error (.tag text)
  match p.tag with
  | none => .ok (if style = .plain then untypedPlain text else .string text)
  | some tag =>
    match Text.afterStart coreHandle tag.text with
    | some "bool" => fits ((truth? text).map .bool)
    | some "int" => fits ((wholeNumber? text.toList).map .int)
    | some "float" => fits (number? text.toList)
    | some "null" => fits (if isNullText text then some .null else none)
    | _ =>
      if Text.startsWith "!" tag.text ∧ style = .plain then .ok (untypedPlain text)
      else .ok (.string text)

/-- An object, if its keys are texts and all different. -/
def objectOf : List (Json × Json) → Except UntypedError Json.Members
  | [] => .ok []
  | (.string name, value) :: rest => do
    let members ← objectOf rest
    if members.any fun (other, _) => other == name then throw .key
    return (name, value) :: members
  | _ :: _ => .error .key

/-- The JSON of a node, whose collections may be nested as deep as is said. -/
def untyped (document : Node) : Nat → Node → Except UntypedError Json
  | 0, node => do
    match ← (follow document node).mapError .record with
    | .scalar p style text => untypedScalar p style text
    | _ => throw .depth
  | depth + 1, node => do
    match ← (follow document node).mapError .record with
    | .scalar p style text => untypedScalar p style text
    | .sequence _ items => return .array (← items.mapM (untyped document depth))
    | .mapping _ entries => do
      let pairs ← entries.mapM fun (key, value) => do
        return (← untyped document depth key, ← untyped document depth value)
      return .object (← objectOf pairs)
    | .alias name => throw (.record (.unknownAnchor name))

/-- The JSON of each document of a list. -/
def untypedAll : List Node → Except UntypedError (List Json)
  | [] => .ok []
  | root :: rest => do
    let (root, _) ← (root.number {}).mapError .record
    let first ← untyped root 128 root
    return first :: (← untypedAll rest)

/-- The JSON of the documents of a text; a text without any is one that means null. -/
def untypedDocuments (text : List Char) : Except UntypedError (List Json) := do
  let tokens ← (Scan11.tokens text).mapError fun e => .record (.token e)
  let roots ← (parse .v11 tokens).mapError fun e => .record (.tree e)
  if roots.isEmpty then return [.null] else untypedAll roots

end Provisioner.Yaml
