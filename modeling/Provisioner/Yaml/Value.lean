import Provisioner.Yaml.Node
import Provisioner.Json.Number
/-!
# Values of YAML documents

What a document means: scalars are resolved to null, truth values, integers, reals and strings,
anchors to what they stand for.  A real keeps its text.  A scalar that its tag does not fit, and a
reference to an anchor inside the node that it names, are *bad* values.

`Value.toJson` turns a value into JSON.  Keys become texts, and a real the nearest double, or null
when there is none.
-/

namespace Provisioner.Yaml

/-- What a node means. -/
inductive Value where
  | null
  | bool (value : Bool)
  | int (value : Int)
  /-- A real number, by its text. -/
  | real (text : String)
  | string (value : String)
  | sequence (items : List Value)
  /-- A mapping with its entries in order. -/
  | mapping (entries : List (Value × Value))
  /-- A reference that has not been followed. -/
  | alias (id : Nat)
  /-- No value at all. -/
  | bad
deriving Inhabited

namespace Value

mutual
/-- Whether two values are the same, part by part. -/
def same : Value → Value → Bool
  | .null, .null => true
  | .bool x, .bool y => x == y
  | .int x, .int y => x == y
  | .real x, .real y => x == y
  | .string x, .string y => x == y
  | .sequence x, .sequence y => sameItems x y
  | .mapping x, .mapping y => sameEntries x y
  | .alias x, .alias y => x == y
  | .bad, .bad => true
  | _, _ => false

/-- Whether two lists of values are the same. -/
def sameItems : List Value → List Value → Bool
  | [], [] => true
  | a :: x, b :: y => same a b && sameItems x y
  | _, _ => false

/-- Whether two lists of entries are the same. -/
def sameEntries : List (Value × Value) → List (Value × Value) → Bool
  | [], [] => true
  | (a, u) :: x, (b, v) :: y => same a b && same u v && sameEntries x y
  | _, _ => false
end

end Value

/-! ## Plain scalars -/

/-- A 64-bit integer in a base: an optional sign and digits. -/
def integer? (base : Nat) (text : List Char) : Option Int :=
  let (negative, digits) := match text with
    | '-' :: digits => (true, digits)
    | '+' :: digits => (false, digits)
    | digits => (false, digits)
  if digits.isEmpty then none
  else do
    let values ← digits.mapM fun c => (hexValue? c).filter (· < base)
    let magnitude := values.foldl (fun n d => n * base + d) 0
    let value : Int := if negative then -magnitude else magnitude
    if -0x8000000000000000 ≤ value ∧ value < 0x8000000000000000 then some value else none

/-- A decimal cut into its parts: digits before and after the point, and the exponent. -/
def decimal? (text : List Char) : Option (List Nat × List Nat × Int) :=
  let (whole, rest) := Json.takeDigits text
  let (fraction, rest) := match rest with
    | '.' :: rest => Json.takeDigits rest
    | rest => ([], rest)
  if whole.isEmpty ∧ fraction.isEmpty then none
  else
    match rest with
    | [] => some (whole, fraction, 0)
    | e :: rest =>
      if e = 'e' ∨ e = 'E' then
        let (negative, rest) := match rest with
          | '-' :: rest => (true, rest)
          | '+' :: rest => (false, rest)
          | rest => (false, rest)
        match Json.takeDigits rest with
        | ([], _) => none
        | (digits, []) =>
          let n : Nat := digits.foldl (fun n d => n * 10 + d) 0
          some (whole, fraction, if negative then -n else n)
        | _ => none
      else none

/-- The double of a text: a decimal with an optional sign, an infinity or a non-number by name.
Decimals are rounded to the nearest double; infinities and non-numbers have no finite double. -/
def double? (text : List Char) : Option (Option Binary64) :=
  let (negative, body) := match text with
    | '-' :: body => (true, body)
    | '+' :: body => (false, body)
    | body => (false, body)
  let lower := body.map Char.toLower
  if lower = "inf".toList ∨ lower = "infinity".toList ∨ lower = "nan".toList then some none
  else
    match decimal? body with
    | none => none
    | some (whole, fraction, exponent) =>
      let digits : Nat := (whole ++ fraction).foldl (fun n d => n * 10 + d) 0
      let exponent := exponent - fraction.length
      let value :=
        if digits = 0 then Binary64.ofMagnitude negative 0
        else if 400 < exponent then
          Binary64.ofMagnitude negative Binary64.infinityBits
        else if exponent < -400 - ((whole.length + fraction.length : Nat) : Int) then
          Binary64.ofMagnitude negative 0
        else Binary64.ofDecimal negative digits exponent
      some (if value.isFinite then some value else none)

/-- Whether a text is a real: one of the names with a point, or a text with a double. -/
def isReal (text : List Char) : Bool :=
  [".inf", ".Inf", ".INF", "+.inf", "+.Inf", "+.INF", "-.inf", "-.Inf", "-.INF", ".nan", "NaN",
    ".NAN"].any (fun name => name.toList == text) || (double? text).isSome

/-- What a plain scalar without a tag means. -/
def resolvePlain (text : String) : Value :=
  let chars := text.toList
  let special : Option Value := match chars with
    | '0' :: 'x' :: digits => (integer? 16 digits).map .int
    | '0' :: 'o' :: digits => (integer? 8 digits).map .int
    | '+' :: digits => (integer? 10 digits).map .int
    | _ => none
  match special with
  | some value => value
  | none =>
    if text = "" ∨ text = "~" ∨ text = "null" then .null
    else if text = "true" then .bool true
    else if text = "false" then .bool false
    else
      match integer? 10 chars with
      | some n => .int n
      | none => if isReal chars then .real text else .string text

/-- What a scalar means, by its tag and the way it is written. -/
def resolveScalar (tag : Option Tag) (style : Style) (text : String) : Value :=
  if style ≠ .plain then .string text
  else
    match tag with
    | none => resolvePlain text
    | some tag =>
      if tag.handle ≠ coreHandle then .string text
      else if tag.suffix = "bool" then
        if text = "true" then .bool true else if text = "false" then .bool false else .bad
      else if tag.suffix = "int" then
        match integer? 10 text.toList with
        | some n => .int n
        | none => .bad
      else if tag.suffix = "float" then if isReal text.toList then .real text else .bad
      else if tag.suffix = "null" then if text = "~" ∨ text = "null" then .null else .bad
      else .string text

/-! ## Anchors and mappings -/

/-- Why a tree of nodes means nothing. -/
inductive LoadError where
  /-- A reference to an anchor that is not there. -/
  | unknownAnchor (name : String)
  /-- A mapping with two equal keys. -/
  | duplicateKey
deriving DecidableEq

/-- The anchors of a document: names with the numbers they were given last, and values by number. -/
structure Anchors where
  names : List (String × Nat) := []
  values : List (Nat × Value) := []
  count : Nat := 0

/-- Give an anchor the next number. -/
def Anchors.open (a : Anchors) : Option String → Option Nat × Anchors
  | none => (none, a)
  | some name =>
    (some a.count, { a with names := (name, a.count) :: a.names, count := a.count + 1 })

/-- The value of the anchor with a number is known. -/
def Anchors.close (a : Anchors) (id : Option Nat) (value : Value) : Anchors :=
  match id with
  | none => a
  | some id => { a with values := (id, value) :: a.values }

/-- What the anchor of a name stands for: bad while its node is not complete. -/
def Anchors.value? (a : Anchors) (name : String) : Option Value :=
  (a.names.lookup name).map fun id => (a.values.lookup id).getD .bad

/-- Put together the entries of a mapping from its keys and values in order.  A key that is bad is
passed over, so that the node after it is the key; a key without a value is left out.  No two keys
may be equal. -/
def entriesOf : Option Value → List (Value × Value) → List Value →
    Except LoadError (List (Value × Value))
  | _, done, [] => .ok done.reverse
  | none, done, value :: rest =>
    match value with
    | .bad => entriesOf none done rest
    | key => entriesOf (some key) done rest
  | some key, done, value :: rest =>
    if done.any fun entry => entry.1.same key then .error .duplicateKey
    else entriesOf none ((key, value) :: done) rest

mutual
/-- What a node means. -/
def Node.load : Node → Anchors → Except LoadError (Value × Anchors)
  | .alias name, a =>
    match a.value? name with
    | some value => .ok (value, a)
    | none => .error (.unknownAnchor name)
  | .scalar p style text, a =>
    let (id, a) := a.open p.anchor
    let value := resolveScalar p.tag style text
    .ok (value, a.close id value)
  | .sequence p items, a => do
    let (id, a) := a.open p.anchor
    let (values, a) ← loadItems items a
    return (.sequence values, a.close id (.sequence values))
  | .mapping p entries, a => do
    let (id, a) := a.open p.anchor
    let (values, a) ← loadEntries entries a
    let entries ← entriesOf none [] values
    return (.mapping entries, a.close id (.mapping entries))

/-- What the nodes of a list mean. -/
def loadItems : List Node → Anchors → Except LoadError (List Value × Anchors)
  | [], a => .ok ([], a)
  | node :: rest, a => do
    let (value, a) ← node.load a
    let (values, a) ← loadItems rest a
    return (value :: values, a)

/-- What the keys and values of a list of entries mean, in order. -/
def loadEntries : List (Node × Node) → Anchors → Except LoadError (List Value × Anchors)
  | [], a => .ok ([], a)
  | (key, value) :: rest, a => do
    let (key, a) ← key.load a
    let (value, a) ← value.load a
    let (values, a) ← loadEntries rest a
    return (key :: value :: values, a)
end

/-! ## Values as JSON -/

/-- Why a value has no JSON. -/
inductive ConversionError where
  /-- A reference that has not been followed. -/
  | alias
  /-- No value at all. -/
  | badValue
  /-- A key that has no text. -/
  | unsupportedKey
  /-- A real without any text. -/
  | emptyReal
  /-- A real whose text has no double. -/
  | invalidReal
deriving DecidableEq

/-- What is wrong, in words. -/
def ConversionError.message : ConversionError → String
  | .alias => "YAML aliases not supported"
  | .badValue => "bad YAML value"
  | .unsupportedKey => "unsupported YAML key type"
  | .emptyReal => "cannot parse float from empty string"
  | .invalidReal => "invalid float literal"

namespace Value

/-- The text of a key. -/
def keyText : Value → Except ConversionError String
  | .string text | .real text => .ok text
  | .int n => .ok (toString n)
  | .bool true => .ok "true"
  | .bool false => .ok "false"
  | .null => .ok "null"
  | .sequence _ | .mapping _ | .alias _ | .bad => .error .unsupportedKey

/-- The JSON of a real: its double, or null when that is not finite. -/
def realToJson (text : String) : Except ConversionError Json :=
  match double? text.toList with
  | some (some value) => .ok (.float value)
  | some none => .ok .null
  | none => .error (if text = "" then .emptyReal else .invalidReal)

mutual
/-- The JSON of a value. -/
def toJson : Value → Except ConversionError Json
  | .null => .ok .null
  | .bool value => .ok (.bool value)
  | .int value => .ok (.int value)
  | .real text => realToJson text
  | .string value => .ok (.string value)
  | .sequence items => do return .array (← itemsToJson items)
  | .mapping entries => do return Json.ofMembers (← entriesToJson entries)
  | .alias _ => .error .alias
  | .bad => .error .badValue

/-- The JSON of each item. -/
def itemsToJson : List Value → Except ConversionError (List Json)
  | [] => .ok []
  | item :: rest => do
    let first ← toJson item
    let rest ← itemsToJson rest
    return first :: rest

/-- The text of each key and the JSON of each value. -/
def entriesToJson : List (Value × Value) → Except ConversionError Json.Members
  | [] => .ok []
  | (key, value) :: rest => do
    let name ← key.keyText
    let first ← toJson value
    let rest ← entriesToJson rest
    return (name, first) :: rest
end

end Value

end Provisioner.Yaml
