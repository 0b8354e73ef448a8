import Provisioner.Yaml.Token
/-!
# Nodes of YAML documents

The tree that a list of tokens stands for.  A node is a reference to an anchor, a scalar, a
sequence or a mapping; each but the first may carry an anchor and a tag.  A node that is left out
is an empty plain scalar.

Version 1.2 lets the key of a block mapping be left out and lets a document follow the end marker
of another without a start marker; version 1.1 does neither.
-/

namespace Provisioner.Yaml

/-- Versions of the language. -/
inductive Version where
  | v11
  | v12
deriving DecidableEq

/-- A tag: what its handle stands for, and the rest. -/
structure Tag where
  /-- Meaning of the handle; empty for a tag given in full. -/
  handle : String
  /-- The rest of the tag. -/
  suffix : String
deriving DecidableEq

/-- A tag in full. -/
def Tag.text (tag : Tag) : String := tag.handle ++ tag.suffix

/-- What a node may carry besides its content. -/
structure Properties where
  anchor : Option String := none
  tag : Option Tag := none
deriving DecidableEq

/-- A node of a document. -/
inductive Node where
  /-- The node with an anchor of this name. -/
  | alias (name : String)
  | scalar (properties : Properties) (style : Style) (text : String)
  | sequence (properties : Properties) (items : List Node)
  | mapping (properties : Properties) (entries : List (Node × Node))

/-- Why a list of tokens is not a document: what was expected in the place of a token. -/
structure StructureError where
  expected : String
deriving DecidableEq

/-- The node that is left out. -/
def Node.omitted : Node := .scalar {} .plain ""

/-- The tag handles that a document declares, with their meanings. -/
abbrev Handles := List (String × String)

/-- The handle of the tags that the language itself defines, in full. -/
def coreHandle : String := "tag:yaml.org,2002:"

/-- Refuse a token where something else is expected. -/
def expected {α : Type} (what : String) : Except StructureError α := .error ⟨what⟩

/-- The meaning of a handle among those declared. -/
def Handles.find? (handles : Handles) (handle : String) : Option String :=
  (List.find? (fun entry : String × String => entry.1 == handle) handles).map Prod.snd

/-- Whether a handle is written with two exclamation marks. -/
def isNamedHandle (handle : String) : Bool :=
  2 ≤ handle.length && handle.toList.head? == some '!' && handle.toList.getLast? == some '!'

/-- The tag that a token stands for. -/
def resolveTag (handles : Handles) (handle suffix : String) :
    Except StructureError Tag :=
  match handles.find? handle with
  | some meaning => .ok ⟨meaning, suffix⟩
  | none =>
    if handle = "!!" then .ok ⟨coreHandle, suffix⟩
    else if isNamedHandle handle then expected "a declared tag handle"
    else .ok ⟨handle, suffix⟩

/-- Anchor and tag in front of a node, in either order. -/
def properties (handles : Handles) : List Token → Except StructureError (Properties × List Token)
  | .anchor name :: .tag handle suffix :: rest => do
    let tag ← resolveTag handles handle suffix
    return ({ anchor := some name, tag := some tag }, rest)
  | .tag handle suffix :: .anchor name :: rest => do
    let tag ← resolveTag handles handle suffix
    return ({ anchor := some name, tag := some tag }, rest)
  | .anchor name :: rest => return ({ anchor := some name }, rest)
  | .tag handle suffix :: rest => do
    let tag ← resolveTag handles handle suffix
    return ({ tag := some tag }, rest)
  | rest => return ({}, rest)

/-- Whether a key or a value is left out in front of this token of a block mapping. -/
def endsBlockPart : List Token → Bool
  | .key :: _ | .value :: _ | .blockEnd :: _ => true
  | _ => false

/-- Whether an entry is left out in front of this token of a block sequence. -/
def endsBlockEntry : List Token → Bool
  | .blockEntry :: _ | .blockEnd :: _ => true
  | _ => false

/-- Whether a part is left out in front of this token of a sequence without an indentation of its
own. -/
def endsIndentlessEntry : List Token → Bool
  | .blockEntry :: _ | .key :: _ | .value :: _ | .blockEnd :: _ => true
  | _ => false

mutual
/-- A node.  `block` says that it may be a block collection, `indentless` that it may be a block
sequence without an indentation of its own.  The first argument bounds the depth. -/
def node (v : Version) (handles : Handles) : Nat → Bool → Bool → List Token →
    Except StructureError (Node × List Token)
  | 0, _, _, _ => expected "fewer nested nodes"
  | _ + 1, _, _, .alias name :: rest => return (.alias name, rest)
  | n + 1, block, indentless, tokens => do
    let (p, tokens) ← properties handles tokens
    match tokens with
    | .scalar style text :: rest => return (.scalar p style text, rest)
    | .flowSequenceStart :: rest => do
      let (items, rest) ← flowItems v handles n true rest
      return (.sequence p items, rest)
    | .flowMappingStart :: rest => do
      let (entries, rest) ← flowEntries v handles n true rest
      return (.mapping p entries, rest)
    | tokens =>
      match tokens, block, indentless with
      | .blockEntry :: _, _, true => do
        let (items, rest) ← indentlessItems v handles n tokens
        return (.sequence p items, rest)
      | .blockSequenceStart :: rest, true, _ => do
        let (items, rest) ← blockItems v handles n rest
        return (.sequence p items, rest)
      | .blockMappingStart :: rest, true, _ => do
        let (entries, rest) ← blockEntries v handles n rest
        return (.mapping p entries, rest)
      | _, _, _ =>
        if p = {} then expected "a node" else return (.scalar p .plain "", tokens)

/-- The items of a block sequence. -/
def blockItems (v : Version) (handles : Handles) : Nat → List Token →
    Except StructureError (List Node × List Token)
  | 0, _ => expected "fewer nested nodes"
  | _ + 1, .blockEnd :: rest => return ([], rest)
  | n + 1, .blockEntry :: rest => do
    let (item, rest) ←
      if endsBlockEntry rest then pure (Node.omitted, rest) else node v handles n true false rest
    let (items, rest) ← blockItems v handles n rest
    return (item :: items, rest)
  | _ + 1, _ => expected "an entry of a block sequence"

/-- The items of a block sequence without an indentation of its own. -/
def indentlessItems (v : Version) (handles : Handles) : Nat → List Token →
    Except StructureError (List Node × List Token)
  | 0, _ => expected "fewer nested nodes"
  | n + 1, .blockEntry :: rest => do
    let (item, rest) ←
      if endsIndentlessEntry rest then pure (Node.omitted, rest)
      else node v handles n true false rest
    let (items, rest) ← indentlessItems v handles n rest
    return (item :: items, rest)
  | _ + 1, rest => return ([], rest)

/-- The value of an entry of a block mapping. -/
def blockValue (v : Version) (handles : Handles) : Nat → List Token →
    Except StructureError (Node × List Token)
  | 0, _ => expected "fewer nested nodes"
  | n + 1, .value :: rest =>
    if endsBlockPart rest then return (Node.omitted, rest) else node v handles n true true rest
  | _ + 1, rest => return (Node.omitted, rest)

/-- The entries of a block mapping. -/
def blockEntries (v : Version) (handles : Handles) : Nat → List Token →
    Except StructureError (List (Node × Node) × List Token)
  | 0, _ => expected "fewer nested nodes"
  | _ + 1, .blockEnd :: rest => return ([], rest)
  | n + 1, .key :: rest => do
    let (key, rest) ←
      if endsBlockPart rest then pure (Node.omitted, rest) else node v handles n true true rest
    let (value, rest) ← blockValue v handles n rest
    let (entries, rest) ← blockEntries v handles n rest
    return ((key, value) :: entries, rest)
  | n + 1, .value :: rest => do
    if v = .v11 then expected "a key"
    else
      let (value, rest) ← blockValue v handles n (.value :: rest)
      let (entries, rest) ← blockEntries v handles n rest
      return ((Node.omitted, value) :: entries, rest)
  | _ + 1, _ => expected "a key"

/-- The items of a flow sequence; all but the first follow a comma. -/
def flowItems (v : Version) (handles : Handles) : Nat → Bool → List Token →
    Except StructureError (List Node × List Token)
  | 0, _, _ => expected "fewer nested nodes"
  | _ + 1, _, .flowSequenceEnd :: rest => return ([], rest)
  | n + 1, isFirst, tokens => do
    let tokens ← match isFirst, tokens with
      | true, tokens => pure tokens
      | false, .flowEntry :: rest => pure rest
      | false, _ => expected "',' or ']'"
    match tokens with
    | .flowSequenceEnd :: rest => return ([], rest)
    | .key :: rest => do
      let (key, value, rest) ← flowPair v handles n rest
      let (items, rest) ← flowItems v handles n false rest
      return (.mapping {} [(key, value)] :: items, rest)
    | tokens => do
      let (item, rest) ← node v handles n false false tokens
      let (items, rest) ← flowItems v handles n false rest
      return (item :: items, rest)

/-- A mapping of one entry in a flow sequence, after the mark of its key.  The token at which a key
is found to be left out is passed over. -/
def flowPair (v : Version) (handles : Handles) : Nat → List Token →
    Except StructureError (Node × Node × List Token)
  | 0, _ => expected "fewer nested nodes"
  | n + 1, tokens => do
    let (key, rest) ← match tokens with
      | .value :: rest | .flowEntry :: rest | .flowSequenceEnd :: rest =>
        pure (Node.omitted, rest)
      | tokens => node v handles n false false tokens
    match rest with
    | .value :: rest =>
      match rest with
      | .flowEntry :: _ | .flowSequenceEnd :: _ => return (key, Node.omitted, rest)
      | rest => do
        let (value, rest) ← node v handles n false false rest
        return (key, value, rest)
    | rest => return (key, Node.omitted, rest)

/-- The value of an entry of a flow mapping. -/
def flowValue (v : Version) (handles : Handles) : Nat → List Token →
    Except StructureError (Node × List Token)
  | 0, _ => expected "fewer nested nodes"
  | n + 1, .value :: rest =>
    match rest with
    | .flowEntry :: _ | .flowMappingEnd :: _ => return (Node.omitted, rest)
    | rest => node v handles n false false rest
  | _ + 1, rest => return (Node.omitted, rest)

/-- The entries of a flow mapping; all but the first follow a comma. -/
def flowEntries (v : Version) (handles : Handles) :
    Nat → Bool → List Token → Except StructureError (List (Node × Node) × List Token)
  | 0, _, _ => expected "fewer nested nodes"
  | _ + 1, _, .flowMappingEnd :: rest => return ([], rest)
  | n + 1, isFirst, tokens => do
    let tokens ← match isFirst, tokens with
      | true, tokens => pure tokens
      | false, .flowEntry :: rest => pure rest
      | false, _ => expected "',' or '\x7d'"
    match tokens with
    | .flowMappingEnd :: rest => return ([], rest)
    | .key :: rest => do
      let (key, rest) ← match rest with
        | .value :: _ | .flowEntry :: _ | .flowMappingEnd :: _ => pure (Node.omitted, rest)
        | rest => node v handles n false false rest
      let (value, rest) ← flowValue v handles n rest
      let (entries, rest) ← flowEntries v handles n false rest
      return ((key, value) :: entries, rest)
    | .value :: rest => do
      let (value, rest) ← flowValue v handles n (.value :: rest)
      let (entries, rest) ← flowEntries v handles n false rest
      return ((Node.omitted, value) :: entries, rest)
    | tokens => do
      let (key, rest) ← node v handles n false false tokens
      let (entries, rest) ← flowEntries v handles n false rest
      return ((key, Node.omitted) :: entries, rest)
end

/-! ## Documents -/

/-- The directives in front of a document.  In version 1.1 handles add up and none is declared
twice; in version 1.2 each directive replaces the handles declared so far. -/
def directives (v : Version) : Bool → Handles → List Token →
    Except StructureError (Handles × List Token)
  | versioned, handles, .versionDirective :: rest =>
    if versioned then expected "at most one version directive"
    else directives v true (if v = .v12 then [] else handles) rest
  | versioned, handles, .tagDirective handle meaning :: rest =>
    match v with
    | .v12 => directives v versioned [(handle, meaning)] rest
    | .v11 =>
      if (handles.find? handle).isSome then expected "at most one directive for a tag handle"
      else directives v versioned (handles ++ [(handle, meaning)]) rest
  | _, handles, rest => return (handles, rest)

/-- Whether a token starts a document, or its directives. -/
def startsDocument : List Token → Bool
  | .versionDirective :: _ | .tagDirective .. :: _ | .documentStart :: _ => true
  | _ => false

/-- Whether nothing stands between the start marker of a document and this token. -/
def isEmptyDocument : List Token → Bool
  | .documentEnd :: _ | .streamEnd :: _ | [] => true
  | tokens => startsDocument tokens

/-- The tokens after the end markers that start a list. -/
def skipDocumentEnds : List Token → List Token
  | .documentEnd :: rest => skipDocumentEnds rest
  | rest => rest

/-- The documents that a list of tokens stands for.  `bare` says that the next one needs no start
marker; the first argument bounds their number, `depth` the depth of their nodes. -/
def documents (v : Version) (depth : Nat) :
    Nat → Bool → List Token → Except StructureError (List Node)
  | 0, _, _ => expected "fewer documents"
  | n + 1, bare, tokens => do
    let tokens := if v = .v12 ∨ ¬ bare then skipDocumentEnds tokens else tokens
    match tokens with
    | .streamEnd :: _ | [] => return []
    | tokens =>
      let (root, rest) ←
        if startsDocument tokens ∨ ¬ bare then do
          let (handles, rest) ← directives v false [] tokens
          match rest with
          | .documentStart :: rest =>
            if isEmptyDocument rest then pure (Node.omitted, rest)
            else node v handles depth true false rest
          | _ => expected "the start of a document"
        else node v [] depth true false tokens
      match rest with
      | .documentEnd :: rest => do
        let others ← documents v depth n (v = .v12) rest
        return root :: others
      | rest =>
        match v, rest with
        | .v12, .versionDirective :: _ | .v12, .tagDirective .. :: _ =>
          expected "the end of a document in front of a directive"
        | _, _ => do
          let others ← documents v depth n false rest
          return root :: others

/-- The documents of a list of tokens. -/
def parse (v : Version) (tokens : List Token) : Except StructureError (List Node) :=
  documents v (2 * tokens.length + 8) (tokens.length + 1) true tokens

end Provisioner.Yaml
