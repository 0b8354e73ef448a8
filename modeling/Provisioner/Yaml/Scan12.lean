import Provisioner.Yaml.Token
/-!
# Tokens of YAML 1.2

The scanner goes through a text once, from token to token.  Whether a node is a key is known only
when the colon after it is reached: the scanner remembers where the last node that could be one
started (a *simple key*) and puts the missing tokens in front of it then.  Block collections are
opened and closed by comparing columns with a stack of indentations; an indentation that only
holds the continuation of a value is marked as not being that of a collection.

White space follows the rules of version 1.2: lines end in line feeds and carriage returns alone,
tabs separate tokens but never indent, and a comment stands apart from what is in front of it.  A
zero character ends the text.
-/

namespace Provisioner.Yaml.Scan12

/-- A node that could turn out to be a key. -/
structure SimpleKey where
  /-- Whether it still can. -/
  possible : Bool := false
  /-- Whether it must, by its indentation. -/
  required : Bool := false
  /-- How many tokens are in front of it. -/
  position : Nat := 0
  index : Nat := 0
  line : Nat := 0
  column : Nat := 0

/-- An indentation left for a deeper one. -/
structure Indent where
  /-- The column left. -/
  column : Int
  /-- Whether the deeper one is that of a block collection. -/
  isBlock : Bool

/-- The state of the scanner. -/
structure State where
  /-- What is left of the text. -/
  text : List Char
  /-- Characters gone through. -/
  index : Nat := 0
  /-- Lines gone through. -/
  line : Nat := 0
  /-- Characters gone through on the line. -/
  column : Nat := 0
  /-- Whether only white space has been seen on the line. -/
  leading : Bool := true
  /-- The tokens found, the last one first. -/
  tokens : List Placed := []
  /-- How many tokens were found. -/
  count : Nat := 0
  /-- Where a colon may touch what follows it. -/
  adjacentAt : Nat := 0
  /-- Whether a simple key may start here. -/
  keyAllowed : Bool := true
  /-- The last possible key of each flow level, the innermost first. -/
  keys : List SimpleKey := [{}]
  /-- The current indentation. -/
  indent : Int := -1
  /-- The indentations around it, the innermost first. -/
  indents : List Indent := []
  /-- How many flow collections are open. -/
  flowLevel : Nat := 0
  /-- Whether the last flow mapping was opened by a mark of its own. -/
  mappingStarted : Bool := false
  /-- For each open flow sequence, whether a single-pair mapping is open in it. -/
  pairs : List Bool := []
  /-- A bound on the steps of any loop over the text. -/
  bound : Nat

/-- A step of the scanner. -/
abbrev Scan := StateT State (Except SyntaxError)

/-- Refuse the text at the current place. -/
def refuse {α : Type} (reason : String) : Scan α := do
  let s ← get
  throw ⟨reason, s.line + 1, s.column + 1⟩

/-- The `n`-th character ahead; a zero character past the end. -/
def peek (n : Nat) : Scan Char := return (← get).text.getD n '\x00'

/-- The end of the text. -/
def isEnd (c : Char) : Bool := c == '\x00'

/-- A line break or the end. -/
def isBreakOrEnd (c : Char) : Bool := isBreak c || isEnd c

/-- White space, a line break or the end. -/
def isGap (c : Char) : Bool := isBlank c || isBreakOrEnd c

/-- Pass over one character of white space. -/
def skipBlank : Scan Unit := modify fun s =>
  { s with text := s.text.tail, index := s.index + 1, column := s.column + 1 }

/-- Pass over one character that is not white space. -/
def skip : Scan Unit := modify fun s =>
  { s with text := s.text.tail, index := s.index + 1, column := s.column + 1, leading := false }

/-- Pass over several characters that are not white space. -/
def skipMany : Nat → Scan Unit
  | 0 => return
  | n + 1 => do skip; skipMany n

/-- Pass over a line break, if there is one: a line feed, a carriage return or both. -/
def skipBreak : Scan Unit := do
  let c ← peek 0
  if c == '\r' && (← peek 1) == '\n' then skipBlank
  if isBreak c then
    modify fun s =>
      { s with text := s.text.tail, index := s.index + 1, column := 0, line := s.line + 1,
               leading := true }

/-- Pass over the rest of a comment. -/
def skipComment : Nat → Scan Unit
  | 0 => return
  | n + 1 => do
    if isBreakOrEnd (← peek 0) then return
    skip
    skipComment n

/-- Repeat a step as often as the text is long. -/
def bounded {α : Type} (step : Nat → Scan α) : Scan α := do step (← get).bound

/-- White space passed over on a line: whether tabs and whether spaces were in it. -/
structure Skipped where
  tabs : Bool := false
  spaces : Bool := false

/-- Pass over white space and a comment on a line. -/
def skipLineRest (tabs : Bool) : Nat → Skipped → Scan Skipped
  | 0, seen => return seen
  | n + 1, seen => do
    let c ← peek 0
    if c == ' ' then
      skipBlank
      skipLineRest tabs n { seen with spaces := true }
    else if c == '\t' && tabs then
      skipBlank
      skipLineRest tabs n { seen with tabs := true }
    else if c == '#' then
      if !seen.tabs && !seen.spaces then
        refuse "comments must be separated from other tokens by white space"
      else
        bounded skipComment
        skipLineRest tabs n seen
    else return seen

/-- Pass over white space, tabs included, and a comment on a line. -/
def skipToLineEnd : Scan Skipped := do skipLineRest true ((← get).bound) {}

/-- Whether a simple key may start from here on. -/
def allowKey (allowed : Bool) : Scan Unit := modify fun s => { s with keyAllowed := allowed }

/-- Pass over white space, comments and line breaks to the next token. -/
def skipToNextToken : Nat → Scan Unit
  | 0 => return
  | n + 1 => do
    let s ← get
    let c ← peek 0
    if c == '\t' && !s.indents.isEmpty && s.leading && (s.column : Int) < s.indent then
      let _ ← skipToLineEnd
      if isBreakOrEnd (← peek 0) then skipToNextToken n
      else refuse "tabs cannot be used as indentation"
    else if isBlank c then
      skipBlank
      skipToNextToken n
    else if isBreak c then
      skipBreak
      if s.flowLevel == 0 then allowKey true
      skipToNextToken n
    else if c == '#' then
      bounded skipComment
      skipToNextToken n
    else return

/-- Pass over the white space, without tabs, that must follow the mark of a key. -/
def skipKeyGap : Nat → Bool → Scan Unit
  | 0, _ => return
  | n + 1, needed => do
    let c ← peek 0
    if c == ' ' then
      skipBlank
      skipKeyGap n false
    else if isBreak c then
      skipBreak
      if (← get).flowLevel == 0 then allowKey true
      skipKeyGap n false
    else if c == '#' then
      bounded skipComment
      skipKeyGap n needed
    else if needed then refuse "expected white space"
    else return

/-- Add a token that starts at a column. -/
def emitAt (token : Token) (column : Nat) : Scan Unit := modify fun s =>
  { s with tokens := ⟨token, column⟩ :: s.tokens, count := s.count + 1 }

/-- Add a token that starts here. -/
def emit (token : Token) : Scan Unit := do emitAt token (← get).column

/-- Add a token in front of the one at a position. -/
def insertAt (position : Nat) (token : Token) (column : Nat) : Scan Unit := modify fun s =>
  let later := s.count - position
  { s with tokens := s.tokens.take later ++ ⟨token, column⟩ :: s.tokens.drop later,
           count := s.count + 1 }

/-- A possible key outside of flow collections is none any more on a later line or after more than
1024 characters. -/
def staleKeys : Scan Unit := do
  let s ← get
  if s.flowLevel == 0 then
    let isStale (k : SimpleKey) : Bool :=
      k.possible && (decide (k.line < s.line) || decide (k.index + 1024 < s.index))
    if s.keys.any fun k => isStale k && k.required then refuse "expected ':' after a key"
    set { s with keys := s.keys.map fun k => if isStale k then { k with possible := false } else k }

/-- The last possible key of the current flow level. -/
def currentKey : Scan SimpleKey := return (← get).keys.headD {}

/-- Put a key in the place of the last one of the current flow level. -/
def setKey (k : SimpleKey) : Scan Unit := modify fun s => { s with keys := k :: s.keys.tail }

/-- Remember that a key may start here. -/
def saveKey : Scan Unit := do
  let s ← get
  if s.keyAllowed then
    let required := s.flowLevel == 0 && s.indent == s.column &&
      (s.indents.head?.map (·.isBlock)).getD false
    setKey {
      possible := true, required, position := s.count, index := s.index, line := s.line,
      column := s.column }

/-- The last possible key of the current flow level is none. -/
def dropKey : Scan Unit := do
  let k ← currentKey
  if k.possible && k.required then refuse "expected ':' after a key"
  setKey { k with possible := false }

/-- Leave the indentations deeper than a column. -/
def unrollTo (column : Int) : Nat → Scan Unit
  | 0 => return
  | n + 1 => do
    let s ← get
    if s.flowLevel == 0 && column < s.indent then
      match s.indents with
      | [] => set { s with indent := -1 }
      | top :: rest =>
        set { s with indent := top.column, indents := rest }
        if top.isBlock then emit .blockEnd
        unrollTo column n

/-- Leave the indentations deeper than a column. -/
def unroll (column : Int) : Scan Unit := do unrollTo column ((← get).indents.length + 1)

/-- Leave the indentations that are not those of block collections. -/
def unrollNonBlock : Nat → Scan Unit
  | 0 => return
  | n + 1 => do
    let s ← get
    match s.indents with
    | top :: rest =>
      if !top.isBlock then
        set { s with indent := top.column, indents := rest }
        unrollNonBlock n
    | [] => return

/-- Open a block collection at a column, unless one is open there; its token goes in front of the
one at `position`, or to the end. -/
def roll (column : Nat) (position : Option Nat) (token : Token) : Scan Unit := do
  let s ← get
  if s.flowLevel == 0 then
    if s.indent ≤ column then
      match s.indents with
      | top :: rest => if !top.isBlock then set { s with indent := top.column, indents := rest }
      | [] => pure ()
    let s ← get
    if s.indent < column then
      set { s with indents := ⟨s.indent, true⟩ :: s.indents, indent := column }
      match position with
      | some n => insertAt n token column
      | none => emitAt token column

/-- Ask the next line to be indented deeper than the block collection around it. -/
def rollOne : Scan Unit := modify fun s =>
  if s.flowLevel == 0 && (s.indents.head?.map (·.isBlock)).getD false then
    { s with indents := ⟨s.indent, false⟩ :: s.indents, indent := s.indent + 1 }
  else s

/-- Whether the next three characters are `c` and followed by a gap. -/
def isMarker (c : Char) : Scan Bool := do
  return (← peek 0) == c && (← peek 1) == c && (← peek 2) == c && isGap (← peek 3)

/-- Whether a document starts or ends here. -/
def isDocumentMarker : Scan Bool := do
  return (← get).column == 0 && ((← isMarker '-') || (← isMarker '.'))

/-- Take characters while they are as asked for. -/
def takeWhile (test : Char → Bool) : Nat → List Char → Scan (List Char)
  | 0, taken => return taken.reverse
  | n + 1, taken => do
    let c ← peek 0
    if test c then
      skip
      takeWhile test n (c :: taken)
    else return taken.reverse

/-- Take characters while they are as asked for. -/
def takeAll (test : Char → Bool) : Scan (List Char) := do takeWhile test ((← get).bound) []

/-- Pass over white space on a line. -/
def skipBlanks : Nat → Scan Unit
  | 0 => return
  | n + 1 => do
    if isBlank (← peek 0) then
      skipBlank
      skipBlanks n

/-! ## Directives and tags -/

/-- A character of an address. -/
def isUriChar (c : Char) : Bool := c.isAlphanum || "-#;/?:@&=+$,_.!~*'()[]%".toList.contains c

/-- A character of the rest of a tag. -/
def isTagChar (c : Char) : Bool := isUriChar c && !isFlow c && c != '!'

/-- A byte written as a percent sign and two hexadecimal digits. -/
def percentByte : Scan Nat := do
  match hexValue? (← peek 1), hexValue? (← peek 2) with
  | some high, some low => do
    if (← peek 0) != '%' then refuse "invalid escape in a tag"
    skipMany 3
    return high * 16 + low
  | _, _ => refuse "invalid escape in a tag"

/-- A character written in percent escapes: one byte below 128, or the character whose number is
made up of the two bytes of a two-byte form.  Longer forms are refused. -/
def percentEscape : Scan Char := do
  let byte ← percentByte
  if byte < 0x80 then return Char.ofNat byte
  if byte < 0xC0 || 0xE0 ≤ byte then refuse "invalid escape in a tag"
  let second ← percentByte
  let code := byte * 256 + second
  if 0x80 ≤ second && second < 0xC0 && decide code.isValidChar then return Char.ofNat code
  else refuse "invalid escape in a tag"

/-- Take characters of an address while they are as asked for, with their escapes read. -/
def takeUri (test : Char → Bool) : Nat → List Char → Scan (List Char)
  | 0, taken => return taken.reverse
  | n + 1, taken => do
    let c ← peek 0
    if !test c then return taken.reverse
    else if c == '%' then
      let d ← percentEscape
      takeUri test n (d :: taken)
    else
      skip
      takeUri test n (c :: taken)

/-- A tag handle: an exclamation mark, letters, and perhaps another one. -/
def tagHandle (inDirective : Bool) : Scan (List Char) := do
  if (← peek 0) != '!' then refuse "expected '!' in a tag"
  skip
  let name ← takeAll isWordChar
  if (← peek 0) == '!' then
    skip
    return '!' :: name ++ ['!']
  else if inDirective && !name.isEmpty then refuse "expected '!' after a tag handle"
  else return '!' :: name

/-- The number of a version. -/
def versionNumber : Scan Unit := do
  let digits ← takeAll Char.isDigit
  if digits.isEmpty then refuse "expected a version number"
  if 9 < digits.length then refuse "version number too long"

/-- A directive, after its percent sign. -/
def directive : Scan Token := do
  let name ← takeAll isWordChar
  if name.isEmpty then refuse "expected the name of a directive"
  if !isGap (← peek 0) then refuse "unexpected character in the name of a directive"
  let token ←
    if name == "YAML".toList then do
      bounded skipBlanks
      versionNumber
      if (← peek 0) != '.' then refuse "expected '.' in a version number"
      skip
      versionNumber
      pure Token.versionDirective
    else if name == "TAG".toList then do
      bounded skipBlanks
      let handle ← tagHandle true
      bounded skipBlanks
      let c ← peek 0
      let start ←
        if c == '!' then do skip; pure [c]
        else if !isTagChar c then refuse "invalid character in the meaning of a tag"
        else if c == '%' then do pure [← percentEscape]
        else do skip; pure [c]
      let rest ← takeUri isUriChar ((← get).bound) []
      if !isGap (← peek 0) then refuse "expected white space after a tag directive"
      pure (Token.tagDirective (String.ofList handle) (String.ofList (start ++ rest)))
    else do
      bounded skipComment
      pure (Token.tagDirective "" "")
  let _ ← skipToLineEnd
  if !isBreakOrEnd (← peek 0) then refuse "unexpected text after a directive"
  skipBreak
  return token

/-- A tag. -/
def tag : Scan Token := do
  let bound := (← get).bound
  let token ←
    if (← peek 1) == '<' then do
      skipMany 2
      let suffix ← takeUri isUriChar bound []
      if (← peek 0) != '>' then refuse "expected '>' after a tag"
      skip
      pure (Token.tag "" (String.ofList suffix))
    else do
      let handle ← tagHandle false
      if 2 ≤ handle.length && handle.getLast? == some '!' then do
        let suffix ← takeUri isTagChar bound []
        if suffix.isEmpty then refuse "expected the rest of a tag"
        pure (Token.tag (String.ofList handle) (String.ofList suffix))
      else do
        let suffix := handle.tail ++ (← takeUri isTagChar bound [])
        if suffix.isEmpty then pure (Token.tag "" "!")
        else pure (Token.tag "!" (String.ofList suffix))
  let c ← peek 0
  if isGap c || (0 < (← get).flowLevel && isFlow c) then return token
  else refuse "expected white space after a tag"

/-- A character of the name of an anchor. -/
def isAnchorChar (c : Char) : Bool := !isGap c && !isFlow c && c != '\ufeff'

/-- The name of an anchor, after its mark. -/
def anchorName : Scan String := do
  skip
  let name ← takeAll isAnchorChar
  if name.isEmpty then refuse "expected the name of an anchor"
  return String.ofList name

/-! ## Scalars -/

/-- White space between two parts of a scalar: the breaks of the lines passed, the first apart. -/
structure Gap where
  /-- Whether a first line break was passed. -/
  broken : Bool := false
  /-- Line breaks after the first. -/
  more : Nat := 0
  /-- Blanks in front of the first, the last one first. -/
  blanks : List Char := []

/-- What a gap between two parts of a flow scalar stands for: one break is a space, more are breaks
without the first, blanks stay; the last character first. -/
def Gap.fold (g : Gap) (afterEscape : Bool) : List Char :=
  if g.broken then if g.more == 0 then [' '] else List.replicate g.more '\n'
  else if afterEscape then List.replicate g.more '\n'
  else g.blanks

/-- The mark of a block scalar: its chomping and its indentation, if it is given. -/
def blockHeader : Scan (Chomping × Nat) := do
  let chomping? (c : Char) : Option Chomping :=
    if c == '+' then some .keep else if c == '-' then some .strip else none
  let c ← peek 0
  match chomping? c with
  | some chomping => do
    skip
    let d ← peek 0
    if d == '0' then refuse "the indentation of a block scalar must not be zero"
    if d.isDigit then do
      skip
      return (chomping, d.toNat - 48)
    else return (chomping, 0)
  | none => do
    if c == '0' then refuse "the indentation of a block scalar must not be zero"
    if c.isDigit then do
      skip
      match chomping? (← peek 0) with
      | some chomping => do
        skip
        return (chomping, c.toNat - 48)
      | none => return (.clip, c.toNat - 48)
    else return (.clip, 0)

/-- Pass over spaces up to a column. -/
def skipSpacesTo (limit : Option Nat) : Nat → Scan Unit
  | 0 => return
  | n + 1 => do
    let column := (← get).column
    if limit.all (fun l => decide (column < l)) && (← peek 0) == ' ' then
      skipBlank
      skipSpacesTo limit n

/-- Find the indentation of a block scalar: that of its first line with content, or the deepest of
the empty lines in front of it; and how many those are. -/
def findBlockIndent : Nat → Nat → Nat → Scan (Nat × Nat)
  | 0, deepest, breaks => return (deepest, breaks)
  | n + 1, deepest, breaks => do
    bounded (skipSpacesTo none)
    let deepest := max deepest (← get).column
    if isBreak (← peek 0) then
      skipBreak
      findBlockIndent n deepest (breaks + 1)
    else return (deepest, breaks)

/-- Pass over the indentation of a block scalar and its empty lines; how many those are. -/
def skipBlockIndent (indent : Nat) : Nat → Nat → Scan Nat
  | 0, breaks => return breaks
  | n + 1, breaks => do
    bounded (skipSpacesTo (some indent))
    if isBreak (← peek 0) then
      skipBreak
      skipBlockIndent indent n (breaks + 1)
    else return breaks

/-- The lines of a block scalar, the last character first; also whether its last line ended in a
break, and how many empty lines follow. -/
def blockLines (literal : Bool) (indent : Nat) :
    Nat → List Char → Bool → Bool → Nat → Scan (List Char × Bool × Nat)
  | 0, taken, broken, _, breaks => return (taken, broken, breaks)
  | n + 1, taken, broken, wasBlank, breaks => do
    let c ← peek 0
    if (← get).column != indent || isEnd c then return (taken, broken, breaks)
    else if indent == 0 && (← isMarker '.') then return (taken, broken, breaks)
    else
      let blank := isBlank c
      let between :=
        if !literal && broken && !wasBlank && !blank then
          if breaks == 0 then [' '] else List.replicate breaks '\n'
        else List.replicate (breaks + if broken then 1 else 0) '\n'
      let line ← takeAll fun c => !isBreakOrEnd c
      let taken := line.reverse ++ between ++ taken
      if isEnd (← peek 0) then return (taken, false, 0)
      skipBreak
      let breaks ← skipBlockIndent indent ((← get).bound) 0
      blockLines literal indent n taken true blank breaks

/-- A block scalar, after its mark. -/
def blockScalar (literal : Bool) : Scan Token := do
  let startLine := (← get).line
  skip
  bounded unrollNonBlock
  let (chomping, increment) ← blockHeader
  let _ ← skipToLineEnd
  if !isBreakOrEnd (← peek 0) then refuse "unexpected text after the mark of a block scalar"
  let headerBroken := isBreak (← peek 0)
  skipBreak
  if (← peek 0) == '\t' then refuse "a block scalar cannot start with a tab"
  let s ← get
  let (indent, breaks) ←
    if increment == 0 then do
      let (deepest, breaks) ← findBlockIndent s.bound 0 0
      let indent := max deepest (s.indent + 1).toNat
      pure (if 0 < s.indent then max indent 1 else indent, breaks)
    else do
      let indent := if 0 ≤ s.indent then (s.indent + increment).toNat else increment
      pure (indent, ← skipBlockIndent indent s.bound 0)
  let style := if literal then Style.literal else Style.folded
  if isEnd (← peek 0) then
    let headerBreak := if headerBroken then "\n" else ""
    let text :=
      if chomping == .strip || (← get).line == startLine then ""
      else if chomping == .clip || breaks == 0 then headerBreak
      else String.ofList (List.replicate breaks '\n')
    return .scalar style text
  let t ← get
  if t.column < indent && t.indent < t.column then
    refuse "wrongly indented line in a block scalar"
  let (taken, broken, breaks) ← blockLines literal indent t.bound [] false false breaks
  let atEnd := isEnd (← peek 0) && decide (max indent 1 ≤ (← get).column)
  let taken := if chomping != .strip && broken then '\n' :: taken else taken
  let taken := if chomping != .strip && atEnd then '\n' :: taken else taken
  let taken := if chomping == .keep then List.replicate breaks '\n' ++ taken else taken
  return .scalar style (String.ofList taken.reverse)

/-- The character of an escape in double quotes. -/
def escape : Scan Char := do
  let c ← peek 1
  match simpleEscape? c with
  | some d => do
    skipMany 2
    return d
  | none =>
    match escapeDigits? c with
    | none => refuse "unknown escape in double quotes"
    | some width => do
      skipMany 2
      match hexNumber? width 0 (← get).text with
      | none => refuse "expected a hexadecimal number in an escape"
      | some code =>
        if h : code.isValidChar then do
          skipMany width
          return Char.ofNatAux code h
        else refuse "an escape of no character"

/-- The characters of a quoted scalar up to white space or its end, the last one first; and whether
they ended in an escaped line break. -/
def quotedPart (single : Bool) : Nat → List Char → Scan (List Char × Bool)
  | 0, taken => return (taken, false)
  | n + 1, taken => do
    let c ← peek 0
    if isGap c then return (taken, false)
    else if single && c == '\'' then
      if (← peek 1) == '\'' then
        skipMany 2
        quotedPart single n ('\'' :: taken)
      else return (taken, false)
    else if !single && c == '"' then return (taken, false)
    else if !single && c == '\\' then
      if isBreak (← peek 1) then
        skip
        skipBreak
        return (taken, true)
      else
        let d ← escape
        quotedPart single n (d :: taken)
    else
      skip
      quotedPart single n (c :: taken)

/-- The white space between two parts of a quoted scalar; `lines` says that a line was left. -/
def quotedGap : Nat → Bool → Gap → Scan Gap
  | 0, _, gap => return gap
  | n + 1, lines, gap => do
    let s ← get
    let c ← peek 0
    if isBlank c then
      if lines then
        if c == '\t' && (s.column : Int) < s.indent then refuse "tabs cannot be used as indentation"
        skipBlank
        quotedGap n lines gap
      else
        skipBlank
        quotedGap n lines { gap with blanks := c :: gap.blanks }
    else if isBreak c then
      skipBreak
      if lines then quotedGap n true { gap with more := gap.more + 1 }
      else quotedGap n true { gap with broken := true, blanks := [] }
    else return gap

/-- The parts of a quoted scalar, the last character first. -/
def quotedParts (single : Bool) : Nat → List Char → Scan (List Char)
  | 0, taken => return taken
  | n + 1, taken => do
    if ← isDocumentMarker then refuse "unexpected document marker in a quoted scalar"
    if isEnd (← peek 0) then refuse "unexpected end in a quoted scalar"
    let s ← get
    if (s.column : Int) < s.indent then refuse "wrong indentation in a quoted scalar"
    let (taken, escaped) ← quotedPart single s.bound taken
    let c ← peek 0
    if c == (if single then '\'' else '"') then return taken
    let gap ← quotedGap s.bound escaped {}
    quotedParts single n (gap.fold escaped ++ taken)

/-- A quoted scalar. -/
def quotedScalar (single : Bool) : Scan Token := do
  let startLine := (← get).line
  skip
  let taken ← bounded fun n => quotedParts single n []
  skip
  let _ ← skipToLineEnd
  let s ← get
  let c ← peek 0
  let fits :=
    isBreakOrEnd c || (0 < s.flowLevel && (c == ',' || c == '\x7d' || c == ']' || c == ':')) ||
      (c == ':' && s.line == startLine)
  if !fits then refuse "unexpected text after a quoted scalar"
  return .scalar (if single then .singleQuoted else .doubleQuoted) (String.ofList taken.reverse)

/-- Whether the next character can go on a plain scalar. -/
def plainGoesOn : Scan Bool := do
  let inFlow := decide (0 < (← get).flowLevel)
  let c ← peek 0
  let d ← peek 1
  return !((c == ':' && (isGap d || (inFlow && isFlow d))) || (inFlow && isFlow c))

/-- The characters of a plain scalar up to white space or its end, the last one first. -/
def plainPart : Nat → List Char → Scan (List Char)
  | 0, taken => return taken
  | n + 1, taken => do
    let c ← peek 0
    if !isGap c && (← plainGoesOn) then
      skip
      plainPart n (c :: taken)
    else return taken

/-- The white space between two parts of a plain scalar. -/
def plainGap (indent : Int) : Nat → Gap → Scan Gap
  | 0, gap => return gap
  | n + 1, gap => do
    let s ← get
    let c ← peek 0
    if isBlank c then
      if !s.leading then
        skipBlank
        plainGap indent n { gap with blanks := c :: gap.blanks }
      else if (s.column : Int) < indent && c == '\t' then
        let _ ← skipToLineEnd
        if isBreakOrEnd (← peek 0) then plainGap indent n gap
        else refuse "tabs cannot be used as indentation"
      else
        skipBlank
        plainGap indent n gap
    else if isBreak c then
      skipBreak
      if s.leading then plainGap indent n { gap with more := gap.more + 1 }
      else plainGap indent n { gap with broken := true, blanks := [] }
    else return gap

/-- The parts of a plain scalar, the last character first; `gap` is what stands in front of the
next part. -/
def plainParts (indent : Int) : Nat → List Char → Gap → Scan (List Char)
  | 0, taken, _ => return taken
  | n + 1, taken, gap => do
    let c ← peek 0
    if (← isDocumentMarker) || c == '#' then return taken
    let s ← get
    if 0 < s.flowLevel && c == '-' && isFlow (← peek 1) then
      refuse "a plain scalar cannot start with '-' and an indicator"
    let part ← plainPart s.bound []
    let (taken, gap) := if part.isEmpty then (taken, gap) else (part ++ gap.fold false ++ taken, {})
    let c ← peek 0
    if !(isBlank c || isBreak c) then return taken
    let gap ← plainGap indent s.bound gap
    let t ← get
    if t.flowLevel == 0 && (t.column : Int) < indent then return taken
    plainParts indent n taken gap

/-- A plain scalar. -/
def plainScalar : Scan Token := do
  bounded unrollNonBlock
  let s ← get
  let indent := s.indent + 1
  if 0 < s.flowLevel && (s.column : Int) < indent then
    refuse "wrong indentation in a flow collection"
  let taken ← plainParts indent s.bound [] {}
  if (← get).leading then allowKey true
  if taken.isEmpty then refuse "unexpected end of a plain scalar"
  return .scalar .plain (String.ofList taken.reverse)

/-! ## Tokens -/

/-- A single-pair mapping that is open in the innermost flow sequence ends here. -/
def endPair : Scan Unit := do
  let s ← get
  match s.pairs with
  | true :: rest => do
    set { s with mappingStarted := false, pairs := false :: rest }
    emit .flowMappingEnd
  | _ => return

/-- A node that may be a key and that no key may follow. -/
def node (scan : Scan Token) : Scan Unit := do
  saveKey
  allowKey false
  let column := (← get).column
  let token ← scan
  emitAt token column

/-- The start of a flow collection. -/
def flowStart (token : Token) : Scan Unit := do
  saveKey
  rollOne
  let s ← get
  if s.flowLevel == 255 then refuse "too many nested flow collections"
  set { s with keys := {} :: s.keys, flowLevel := s.flowLevel + 1, keyAllowed := true }
  skip
  modify fun s =>
    if token = .flowMappingStart then { s with mappingStarted := true }
    else { s with pairs := false :: s.pairs }
  let _ ← skipToLineEnd
  emitAt token s.column

/-- The end of a flow collection. -/
def flowEnd (token : Token) : Scan Unit := do
  dropKey
  modify fun s =>
    if 0 < s.flowLevel then { s with flowLevel := s.flowLevel - 1, keys := s.keys.tail } else s
  allowKey false
  if token = .flowSequenceEnd then
    endPair
    modify fun s => { s with pairs := s.pairs.tail }
  let column := (← get).column
  skip
  let _ ← skipToLineEnd
  modify fun s => if 0 < s.flowLevel then { s with adjacentAt := s.index } else s
  emitAt token column

/-- The comma between two entries of a flow collection. -/
def flowEntry : Scan Unit := do
  dropKey
  allowKey true
  endPair
  let column := (← get).column
  skip
  let _ ← skipToLineEnd
  emitAt .flowEntry column

/-- The hyphen of an entry of a block sequence. -/
def blockEntry : Scan Unit := do
  let s ← get
  if 0 < s.flowLevel then refuse "'-' is an entry only outside of flow collections"
  if !s.keyAllowed then refuse "a block sequence is not allowed here"
  match s.tokens with
  | ⟨.anchor _, 0⟩ :: _ | ⟨.tag .., 0⟩ :: _ =>
    if s.column == 0 && -1 < s.indent then refuse "wrong indentation for an anchor"
  | _ => pure ()
  skip
  roll s.column none .blockSequenceStart
  let seen ← skipToLineEnd
  if seen.tabs && (← peek 0) == '-' && isGap (← peek 1) then
    refuse "'-' must be followed by a space"
  let _ ← skipLineRest false s.bound {}
  let c ← peek 0
  if isBreak c || isFlow c then rollOne
  dropKey
  allowKey true
  emit .blockEntry

/-- The mark of a key. -/
def keyMark : Scan Unit := do
  let s ← get
  if s.flowLevel == 0 then
    if !s.keyAllowed then refuse "a mapping is not allowed here"
    roll s.column none .blockMappingStart
  else modify fun s => { s with mappingStarted := true }
  dropKey
  allowKey (s.flowLevel == 0)
  skip
  skipKeyGap s.bound true
  if (← peek 0) == '\t' then refuse "tabs cannot be used as indentation"
  emitAt .key s.column

/-- The colon in front of a value. -/
def valueMark : Scan Unit := do
  let s ← get
  let k ← currentKey
  let isPair := !s.pairs.isEmpty && !s.mappingStarted
  if isPair then modify fun s => { s with pairs := true :: s.pairs.tail }
  skip
  if (← peek 0) == '\t' then
    let seen ← skipToLineEnd
    let c ← peek 0
    if !seen.spaces && (c == '-' || isWordChar c) then refuse "':' must be followed by a space"
  if k.possible then
    insertAt k.position .key k.column
    if isPair then
      if k.line < s.line then refuse "a key and its ':' must be on one line"
      insertAt k.position .flowMappingStart k.column
    roll k.column (some k.position) .blockMappingStart
    rollOne
    setKey { (← currentKey) with possible := false }
    allowKey false
  else
    if isPair then emitAt .flowMappingStart s.column
    if s.flowLevel == 0 then
      if !(← get).keyAllowed then refuse "a value is not allowed here"
      roll s.column none .blockMappingStart
    rollOne
    allowKey (s.flowLevel == 0)
  emitAt .value s.column

/-- What ends every block collection: the start or end of a document, or a directive. -/
def closeBlocks : Scan Unit := do
  unroll (-1)
  dropKey
  allowKey false

/-- The end of the text. -/
def streamEnd : Scan Unit := do
  let s ← get
  if s.column != 0 then set { s with column := 0, line := s.line + 1 }
  if s.keys.any fun k => k.required && k.possible then refuse "expected ':' after a key"
  modify fun s => { s with keys := s.keys.map fun k => { k with possible := false } }
  closeBlocks
  emit .streamEnd

/-- Find the next token; whether it is not the last. -/
def next : Scan Bool := do
  bounded skipToNextToken
  staleKeys
  unroll (← get).column
  let s ← get
  let c ← peek 0
  let d ← peek 1
  if isEnd c then
    streamEnd
    return false
  if s.column == 0 && c == '%' then
    closeBlocks
    skip
    let token ← directive
    emitAt token s.column
  else if s.column == 0 && (← isMarker '-') then
    closeBlocks
    skipMany 3
    emitAt .documentStart s.column
  else if s.column == 0 && (← isMarker '.') then
    closeBlocks
    skipMany 3
    emitAt .documentEnd s.column
    let _ ← skipToLineEnd
    if !isBreakOrEnd (← peek 0) then refuse "unexpected text after the end of a document"
  else if (s.column : Int) < s.indent then refuse "wrong indentation"
  else if c == '[' then flowStart .flowSequenceStart
  else if c == '\x7b' then flowStart .flowMappingStart
  else if c == ']' then flowEnd .flowSequenceEnd
  else if c == '\x7d' then flowEnd .flowMappingEnd
  else if c == ',' then flowEntry
  else if c == '-' && isGap d then blockEntry
  else if c == '?' && isGap d then keyMark
  else if c == ':' &&
      (isGap d || (0 < s.flowLevel && (isFlow d || s.index == s.adjacentAt))) then valueMark
  else if c == '*' then node do return .alias (← anchorName)
  else if c == '&' then node do return .anchor (← anchorName)
  else if c == '!' then node tag
  else if (c == '|' || c == '>') && s.flowLevel == 0 then
    saveKey
    allowKey true
    let token ← blockScalar (c == '|')
    emitAt token s.column
  else if c == '\'' || c == '"' then
    node do
      let token ← quotedScalar (c == '\'')
      bounded skipToNextToken
      modify fun s => { s with adjacentAt := s.index }
      return token
  else if c == '%' || c == '@' || c == '\u0060' then refuse "unexpected character"
  else node plainScalar
  return true

/-- Find tokens until the last. -/
def loop : Nat → Scan Unit
  | 0 => return
  | n + 1 => do if ← next then loop n

/-- The tokens of a text, the end of the text last. -/
def tokens (text : List Char) : Except SyntaxError (List Token) := do
  let bound := text.length + 2
  let ((), s) ← (loop bound).run { text, bound }
  return s.tokens.reverse.map (·.token)

end Provisioner.Yaml.Scan12
