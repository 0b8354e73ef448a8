import Provisioner.Yaml.Node
import Provisioner.Yaml.Scan11
/-!
# Records in YAML 1.1 text

Reading a record straight from the nodes of a document, where the wanted type decides what a scalar
means: a text takes any scalar as it is written, numbers and truth values take those scalars only
that spell one.  A reference is followed wherever a value is read.

Anchors have numbers: that of a new anchor is how many different names were seen before it, also
when its own name was one of them.  A reference stands for the last node of the document with the
number that its name had at the place of the reference.
-/

namespace Provisioner.Yaml

/-- Why a text holds no record of the wanted type. -/
inductive RecordError where
  /-- The text cannot be cut into tokens. -/
  | token (cause : SyntaxError)
  /-- The tokens are not those of documents. -/
  | tree (cause : StructureError)
  /-- There is more than one document. -/
  | manyDocuments
  /-- A reference to an anchor that is not there. -/
  | unknownAnchor (name : String)
  /-- A value is of another type. -/
  | expected (what : String)
  /-- A field is given twice. -/
  | duplicate (field : String)
deriving DecidableEq

/-- What is wrong, in words. -/
def RecordError.message : RecordError → String
  | .token cause => cause.message
  | .tree cause => "expected " ++ cause.expected
  | .manyDocuments => "more than one document"
  | .unknownAnchor name => "unknown anchor " ++ name
  | .expected what => "expected " ++ what
  | .duplicate field => "duplicate field " ++ field

/-! ## Numbered anchors -/

/-- The names of anchors with their numbers, the last one first, and how many names there are. -/
structure AnchorNumbers where
  numbers : List (String × Nat) := []
  names : Nat := 0

/-- The number of a new anchor of a name. -/
def AnchorNumbers.add (a : AnchorNumbers) (name : String) : AnchorNumbers where
  numbers := (name, a.names) :: a.numbers
  names := if (a.numbers.lookup name).isSome then a.names else a.names + 1

/-- Properties with the anchor replaced by its number. -/
def AnchorNumbers.rename (a : AnchorNumbers) (p : Properties) : Properties × AnchorNumbers :=
  match p.anchor with
  | none => (p, a)
  | some name => ({ p with anchor := some (toString a.names) }, a.add name)

mutual
/-- A node with numbers in the place of the names of its anchors and references. -/
def Node.number : Node → AnchorNumbers → Except RecordError (Node × AnchorNumbers)
  | .alias name, a =>
    match a.numbers.lookup name with
    | some n => .ok (.alias (toString n), a)
    | none => .error (.unknownAnchor name)
  | .scalar p style text, a =>
    let (p, a) := a.rename p
    .ok (.scalar p style text, a)
  | .sequence p items, a => do
    let (p, a) := a.rename p
    let (items, a) ← numberItems items a
    return (.sequence p items, a)
  | .mapping p entries, a => do
    let (p, a) := a.rename p
    let (entries, a) ← numberEntries entries a
    return (.mapping p entries, a)

/-- The nodes of a list with numbers. -/
def numberItems : List Node → AnchorNumbers → Except RecordError (List Node × AnchorNumbers)
  | [], a => .ok ([], a)
  | item :: rest, a => do
    let (item, a) ← item.number a
    let (rest, a) ← numberItems rest a
    return (item :: rest, a)

/-- The keys and values of a list of entries with numbers. -/
def numberEntries : List (Node × Node) → AnchorNumbers →
    Except RecordError (List (Node × Node) × AnchorNumbers)
  | [], a => .ok ([], a)
  | (key, value) :: rest, a => do
    let (key, a) ← key.number a
    let (value, a) ← value.number a
    let (rest, a) ← numberEntries rest a
    return ((key, value) :: rest, a)
end

mutual
/-- The last node with an anchor, in the order of the text. -/
def Node.anchored? (name : String) : Node → Option Node
  | .sequence p items =>
    anchoredItem? name items <|> (if p.anchor = some name then some (.sequence p items) else none)
  | .mapping p entries =>
    anchoredEntry? name entries <|>
      (if p.anchor = some name then some (.mapping p entries) else none)
  | .scalar p style text => if p.anchor = some name then some (.scalar p style text) else none
  | .alias _ => none

/-- The last node with an anchor among those of a list. -/
def anchoredItem? (name : String) : List Node → Option Node
  | [] => none
  | item :: rest => anchoredItem? name rest <|> item.anchored? name

/-- The last node with an anchor among the keys and values of a list. -/
def anchoredEntry? (name : String) : List (Node × Node) → Option Node
  | [] => none
  | (key, value) :: rest => anchoredEntry? name rest <|> value.anchored? name <|> key.anchored? name
end

/-! ## Scalars -/

/-- A text that spells null. -/
def isNullText (text : String) : Bool :=
  text == "null" || text == "Null" || text == "NULL" || text == "~"

/-- The truth value that a text spells. -/
def truth? (text : String) : Option Bool :=
  if text = "true" ∨ text = "True" ∨ text = "TRUE" then some true
  else if text = "false" ∨ text = "False" ∨ text = "FALSE" then some false
  else none

/-- A natural number in a base below 2^64. -/
def word? (base : Nat) (digits : List Char) : Option Nat :=
  if digits.isEmpty then none
  else do
    let values ← digits.mapM fun c => (hexValue? c).filter (· < base)
    let value := values.foldl (fun n d => n * base + d) 0
    if value ≤ 0xFFFFFFFFFFFFFFFF then some value else none

/-- The natural number that a text spells: an optional plus sign and digits; those of a base other
than ten follow its mark, and those of base ten do not start with a needless zero. -/
def natural? (text : List Char) : Option Nat :=
  let unsigned := match text with
    | '+' :: rest => rest
    | rest => rest
  match unsigned with
  | '0' :: 'x' :: digits => word? 16 digits
  | '0' :: 'o' :: digits => word? 8 digits
  | '0' :: 'b' :: digits => word? 2 digits
  | '0' :: _ :: _ => none
  | digits => word? 10 digits

/-- Whether a scalar may spell something other than a text: it is plain, or a literal with the tag
of the wanted type. -/
def mayMean (type : String) (p : Properties) (style : Style) : Bool :=
  style == .plain || (style == .literal && p.tag.map Tag.text == some (coreHandle ++ type))

/-! ## Readers -/

/-- A reading of nodes as a type, in a document. -/
abbrev Reader (α : Type) : Type := (document : Node) → Node → Except RecordError α

/-- The node that a node stands for: itself, or the one that it refers to. -/
def follow (document : Node) : Node → Except RecordError Node
  | .alias name =>
    match document.anchored? name with
    | some node => .ok node
    | none => .error (.unknownAnchor name)
  | node => .ok node

namespace Reader

/-- A text: any scalar. -/
def text : Reader String := fun document node => do
  match ← follow document node with
  | .scalar _ _ text => .ok text
  | _ => .error (.expected "a scalar")

/-- A truth value. -/
def bool : Reader Bool := fun document node => do
  match ← follow document node with
  | .scalar p style text =>
    match truth? text, mayMean "bool" p style with
    | some b, true => .ok b
    | _, _ => .error (.expected "a boolean")
  | _ => .error (.expected "a boolean")

/-- A natural number up to a limit below 2^64. -/
def natural (limit : Nat) : Reader Nat := fun document node => do
  match ← follow document node with
  | .scalar p style text =>
    match natural? text.toList, mayMean "int" p style with
    | some n, true =>
      if n ≤ limit then .ok n else .error (.expected "a smaller integer")
    | _, _ => .error (.expected "an integer")
  | _ => .error (.expected "an integer")

variable {α : Type}

/-- A value, or nothing for a plain null.  A tag keeps a scalar from being nothing; that of null
allows nothing else. -/
def nullable (read : Reader α) : Reader (Option α) := fun document node => do
  let node ← follow document node
  match node with
  | .scalar p .plain text =>
    match p.tag with
    | some tag =>
      if tag.text = coreHandle ++ "null" then
        if isNullText text then return none else .error (.expected "null")
      else return some (← read document node)
    | none =>
      if text = "" ∨ isNullText text then return none else return some (← read document node)
  | node => return some (← read document node)

/-- The fields of a record by name, each given once; those of other names are passed over.  A
record that is left out has no fields. -/
def fields (names : List String) : Reader (List (String × Node)) := fun document node => do
  match ← follow document node with
  | .mapping _ entries => known document entries
  | .scalar _ .plain "" => return []
  | _ => .error (.expected "a mapping")
where
  /-- The entries with a known name. -/
  known (document : Node) : List (Node × Node) → Except RecordError (List (String × Node))
    | [] => .ok []
    | (key, value) :: rest => do
      let name ← text document key
      let others ← known document rest
      if ¬ names.contains name then return others
      else if (others.lookup name).isSome then .error (.duplicate name)
      else return (name, value) :: others

/-- A field that has a value when it is left out. -/
def field (given : List (String × Node)) (document : Node) (name : String) (read : Reader α)
    (value : α) : Except RecordError α :=
  match given.lookup name with
  | some node => read document node
  | none => .ok value

end Reader

/-- What a text of one document reads as; a text without one reads as an omitted node. -/
def readRecord {α : Type} (read : Reader α) (text : List Char) : Except RecordError α := do
  let tokens ← (Scan11.tokens text).mapError .token
  let roots ← (parse .v11 tokens).mapError .tree
  match roots with
  | [] => read .omitted .omitted
  | [root] => do
    let (root, _) ← root.number {}
    read root root
  | _ => .error .manyDocuments

end Provisioner.Yaml
