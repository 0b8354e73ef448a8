import Provisioner.Json.Basic
/-!
# Records as JSON objects

Reading a record field by field, and writing one.  Two kinds of record are read: a *closed* record
is an object without repeated fields, or the array of its fields in order; an *open* record is an
object in which the last of several fields of one name counts.  Fields that are not named are
passed over in both.
-/

namespace Provisioner.Json

/-- Why a value is not of the wanted type. -/
inductive DecodeError where
  /-- The value is of another shape. -/
  | expected (what : String)
  /-- A needed field is missing. -/
  | missing (field : String)
  /-- A field is given twice. -/
  | duplicate (field : String)
  /-- The text is not one of the allowed ones. -/
  | unknown (text : String)
deriving DecidableEq

/-- What is wrong, in words. -/
def DecodeError.message : DecodeError → String
  | .expected what => "expected " ++ what
  | .missing field => "missing field " ++ field
  | .duplicate field => "duplicate field " ++ field
  | .unknown text => "unknown variant " ++ text

/-- A reading of JSON values as a type. -/
abbrev Decoder (α : Type) : Type := Json → Except DecodeError α

namespace Decoder

/-- A string. -/
def string : Decoder String
  | .string s => .ok s
  | _ => .error (.expected "a string")

/-- A truth value. -/
def bool : Decoder Bool
  | .bool b => .ok b
  | _ => .error (.expected "a boolean")

/-- An integer between two bounds. -/
def intBetween (low high : Int) : Decoder Int
  | .int n => if low ≤ n ∧ n ≤ high then .ok n else .error (.expected "an integer in range")
  | _ => .error (.expected "an integer")

/-- A signed 32-bit integer. -/
def int32 : Decoder Int := intBetween (-0x80000000) 0x7FFFFFFF

/-- A signed 32-bit integer that is kept as one. -/
def signed32 : Decoder Int32 := fun value => (int32 value).map Int32.ofInt

/-- A signed 64-bit integer. -/
def int64 : Decoder Int := intBetween (-0x8000000000000000) 0x7FFFFFFFFFFFFFFF

/-- Any value, in canonical form. -/
def any : Decoder Json := fun value => .ok value.canonical

variable {α : Type}

/-- Each item of a list. -/
def items (d : Decoder α) : List Json → Except DecodeError (List α)
  | [] => .ok []
  | value :: rest => do
    let first ← d value
    let rest ← items d rest
    return first :: rest

/-- An array of values. -/
def list (d : Decoder α) : Decoder (List α)
  | .array values => items d values
  | _ => .error (.expected "an array")

/-- Each value of a list of members. -/
def values (d : Decoder α) : Members → Except DecodeError (List (String × α))
  | [] => .ok []
  | (name, value) :: rest => do
    let first ← d value
    let rest ← values d rest
    return (name, first) :: rest

/-- Entries sorted by name with one more set. -/
def setEntry (name : String) (value : α) : List (String × α) → List (String × α)
  | [] => [(name, value)]
  | (key, old) :: rest =>
    if name < key then (name, value) :: (key, old) :: rest
    else if key = name then (name, value) :: rest
    else (key, old) :: setEntry name value rest

/-- An object whose members are all of one type, sorted by name, the last of each name kept. -/
def map (d : Decoder α) : Decoder (List (String × α))
  | .object members => do
    let entries ← values d members
    return entries.foldl (fun sorted (name, value) => setEntry name value sorted) []
  | _ => .error (.expected "an object")

/-- A value or null. -/
def nullable (d : Decoder α) : Decoder (Option α)
  | .null => .ok none
  | value => (d value).map some

theorem nullable_of_ne_null {d : Decoder α} {value : Json} (hvalue : value ≠ .null) :
    d.nullable value = (d value).map some := by
  rw [nullable]
  exact hvalue

end Decoder

/-- The fields of a record: those given, by name. -/
structure Fields where
  /-- Names and values in order; a closed record has no name twice. -/
  members : Members

namespace Fields

/-- The first name that occurs again later. -/
def repeated? : List String → Option String
  | [] => none
  | name :: rest => if name ∈ rest then some name else repeated? rest

/-- The fields of a closed record with the given names. -/
def closed (names : List String) : Decoder Fields
  | .object members =>
    let known := members.filter fun (name, _) => names.contains name
    match repeated? (known.map Prod.fst) with
    | some name => .error (.duplicate name)
    | none => .ok ⟨known⟩
  | .array values =>
    if values.length ≤ names.length then .ok ⟨names.zip values⟩
    else .error (.expected "no more items than fields")
  | _ => .error (.expected "an object")

/-- The fields of an open record. -/
def opened : Decoder Fields
  | .object members => .ok ⟨members⟩
  | _ => .error (.expected "an object")

variable {α : Type}

/-- The values given for a field, in order. -/
def given (fields : Fields) (name : String) : List Json :=
  fields.members.filterMap fun (key, value) => if key = name then some value else none

/-- The last value given for a field, each of them read. -/
def last? (fields : Fields) (name : String) (d : Decoder α) : Except DecodeError (Option α) := do
  let values ← Decoder.items d (fields.given name)
  return values.getLast?

/-- A field that must be given. -/
def required (fields : Fields) (name : String) (d : Decoder α) : Except DecodeError α := do
  match ← fields.last? name d with
  | some value => .ok value
  | none => .error (.missing name)

/-- A field that counts as absent when it is null. -/
def optional (fields : Fields) (name : String) (d : Decoder α) : Except DecodeError (Option α) := do
  return (← fields.last? name d.nullable).join

/-- A field that has a value when it is absent, and must not be null. -/
def defaulted (fields : Fields) (name : String) (d : Decoder α) (value : α) :
    Except DecodeError α := do
  return (← fields.last? name d).getD value

/-- A field that has a value when it is absent or null. -/
def lenient (fields : Fields) (name : String) (d : Decoder α) (value : α) :
    Except DecodeError α := do
  return (← fields.optional name d).getD value

end Fields

/-- A signed 32-bit integer. -/
def ofInt32 (value : Int32) : Json := .int value.toInt

/-- A member that is always written. -/
def member (name : String) (value : Json) : Members := [(name, value)]

/-- A member that is written when there is a value. -/
def member? {α : Type} (name : String) (encode : α → Json) : Option α → Members
  | some value => [(name, encode value)]
  | none => []

/-- An array of encoded items. -/
def ofList {α : Type} (encode : α → Json) (values : List α) : Json := .array (values.map encode)

/-- An object of encoded entries. -/
def ofMap {α : Type} (encode : α → Json) (entries : List (String × α)) : Json :=
  ofMembers (entries.map fun (name, value) => (name, encode value))

end Provisioner.Json
