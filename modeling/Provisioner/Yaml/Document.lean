import Provisioner.Yaml.Scan12
import Provisioner.Yaml.Value
/-!
# Documents of YAML 1.2 text

The JSON values of the documents of a text, in order.  A text is read as a whole first: a fault in
any document comes before a value of an earlier one that has no JSON.  Documents that mean null are
left out.
-/

namespace Provisioner.Yaml

/-- Why a text has no documents. -/
inductive Error where
  /-- The text cannot be cut into tokens. -/
  | token (cause : SyntaxError)
  /-- The tokens are not those of documents. -/
  | tree (cause : StructureError)
  /-- A document means nothing. -/
  | load (cause : LoadError)
  /-- A value has no JSON. -/
  | conversion (cause : ConversionError)
deriving DecidableEq

/-- What is wrong, in words. -/
def Error.message : Error → String
  | .token cause => cause.message
  | .tree cause => "expected " ++ cause.expected
  | .load (.unknownAnchor name) => "unknown anchor " ++ name
  | .load .duplicateKey => "duplicated key in mapping"
  | .conversion cause => cause.message

/-- What the documents of a list mean. -/
def loadAll : List Node → Except LoadError (List Value)
  | [] => .ok []
  | root :: rest => do
    let (value, _) ← root.load {}
    return value :: (← loadAll rest)

/-- What the documents of a text mean, in order. -/
def values (text : List Char) : Except Error (List Value) := do
  let tokens ← (Scan12.tokens text).mapError .token
  let roots ← (parse .v12 tokens).mapError .tree
  (loadAll roots).mapError .load

/-- The JSON of the values that are not null, in order. -/
def convertAll : List Value → Except ConversionError (List Json)
  | [] => .ok []
  | value :: rest => do
    let first ← value.toJson
    let rest ← convertAll rest
    return if first.isNull then rest else first :: rest

/-- The JSON of the documents of a text that are not null, in order. -/
def documentsOf (text : List Char) : Except Error (List Json) := do
  let values ← values text
  (convertAll values).mapError .conversion

end Provisioner.Yaml
