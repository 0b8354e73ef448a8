import Provisioner.Number.Binary64
/-!
# JSON values

Integers and fractions are different values.  An object keeps its members in the order in which
they were given, so that a reader can tell a repeated name from a single one; `Json.canonical`
sorts the members of every object by name and keeps the last of each name, which is the form in
which documents are compared, stored and sent.
-/

namespace Provisioner

/-- A JSON value. -/
inductive Json where
  | null
  | bool (value : Bool)
  | int (value : Int)
  | float (value : Binary64)
  | string (value : String)
  | array (items : List Json)
  | object (members : List (String × Json))
deriving Inhabited

namespace Json

mutual
/-- Equality of values is decided by comparing them part by part. -/
def decEq : (x y : Json) → Decidable (x = y)
  | .null, .null => isTrue rfl
  | .bool x, .bool y => decidable_of_iff (x = y) (by simp)
  | .int x, .int y => decidable_of_iff (x = y) (by simp)
  | .float x, .float y => decidable_of_iff (x = y) (by simp)
  | .string x, .string y => decidable_of_iff (x = y) (by simp)
  | .array x, .array y =>
    match decEqItems x y with
    | isTrue h => isTrue (by rw [h])
    | isFalse h => isFalse (by simpa using h)
  | .object x, .object y =>
    match decEqMembers x y with
    | isTrue h => isTrue (by rw [h])
    | isFalse h => isFalse (by simpa using h)
  | .null, .bool _ | .null, .int _ | .null, .float _ | .null, .string _ | .null, .array _
  | .null, .object _ | .bool _, .null | .bool _, .int _ | .bool _, .float _
  | .bool _, .string _ | .bool _, .array _ | .bool _, .object _ | .int _, .null
  | .int _, .bool _ | .int _, .float _ | .int _, .string _ | .int _, .array _
  | .int _, .object _ | .float _, .null | .float _, .bool _ | .float _, .int _
  | .float _, .string _ | .float _, .array _ | .float _, .object _ | .string _, .null
  | .string _, .bool _ | .string _, .int _ | .string _, .float _ | .string _, .array _
  | .string _, .object _ | .array _, .null | .array _, .bool _ | .array _, .int _
  | .array _, .float _ | .array _, .string _ | .array _, .object _ | .object _, .null
  | .object _, .bool _ | .object _, .int _ | .object _, .float _ | .object _, .string _
  | .object _, .array _ => isFalse (by simp)

/-- Lists of values are compared item by item. -/
def decEqItems : (x y : List Json) → Decidable (x = y)
  | [], [] => isTrue rfl
  | [], _ :: _ | _ :: _, [] => isFalse (by simp)
  | a :: x, b :: y =>
    match decEq a b, decEqItems x y with
    | isTrue h, isTrue k => isTrue (by rw [h, k])
    | isFalse h, _ => isFalse (by simp [h])
    | _, isFalse k => isFalse (by simp [k])

/-- Lists of members are compared member by member. -/
def decEqMembers : (x y : List (String × Json)) → Decidable (x = y)
  | [], [] => isTrue rfl
  | [], _ :: _ | _ :: _, [] => isFalse (by simp)
  | (a, u) :: x, (b, v) :: y =>
    if h : a = b then
      match decEq u v, decEqMembers x y with
      | isTrue k, isTrue l => isTrue (by rw [h, k, l])
      | isFalse k, _ => isFalse (by simp [k])
      | _, isFalse l => isFalse (by simp [l])
    else isFalse (by simp [h])
end

instance : DecidableEq Json := decEq

/-- Members of an object in the order given. -/
abbrev Members := List (String × Json)

/-- The value of the last member of a name. -/
def Members.find? (name : String) : Members → Option Json
  | [] => none
  | (key, value) :: rest =>
    match find? name rest with
    | some later => some later
    | none => if key = name then some value else none

/-- Members sorted by name with one more set: in its place by order, or instead of the one of the
same name. -/
def Members.insert (name : String) (value : Json) : Members → Members
  | [] => [(name, value)]
  | (key, old) :: rest =>
    if name < key then (name, value) :: (key, old) :: rest
    else if key = name then (name, value) :: rest
    else (key, old) :: insert name value rest

/-- Members sorted by name, the last of each name kept. -/
def Members.sort (members : Members) : Members :=
  members.foldl (fun sorted (name, value) => sorted.insert name value) []

mutual
/-- The same value with the members of every object sorted by name and the last of each name
kept. -/
def canonical : Json → Json
  | .array items => .array (canonicalItems items)
  | .object members => .object (Members.sort (canonicalMembers members))
  | .null => .null
  | .bool value => .bool value
  | .int value => .int value
  | .float value => .float value
  | .string value => .string value

/-- Each item in canonical form. -/
def canonicalItems : List Json → List Json
  | [] => []
  | item :: rest => canonical item :: canonicalItems rest

/-- Each member's value in canonical form. -/
def canonicalMembers : Members → Members
  | [] => []
  | (name, value) :: rest => (name, canonical value) :: canonicalMembers rest
end

/-- The object with these members, sorted by name. -/
def ofMembers (members : Members) : Json := .object members.sort

/-- The member of a name, when the value is an object that has one. -/
def get? (name : String) : Json → Option Json
  | .object members => Members.find? name members
  | _ => none

/-- The value under a path of member names. -/
def at? : List String → Json → Option Json
  | [], value => some value
  | name :: path, value => (value.get? name).bind (at? path)

/-- The text of a string value. -/
def string? : Json → Option String
  | .string value => some value
  | _ => none

/-- Whether the value is null. -/
def isNull : Json → Bool
  | .null => true
  | _ => false

/-- The members of an object. -/
def members? : Json → Option Members
  | .object members => some members
  | _ => none

@[simp] theorem isNull_iff {x : Json} : x.isNull = true ↔ x = .null := by
  cases x <;> simp [isNull]

end Json

end Provisioner
