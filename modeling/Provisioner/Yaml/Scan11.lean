import Provisioner.Yaml.Token
/-!
# Tokens of YAML 1.1

The same walk over the text as for version 1.2, by the rules of version 1.1.  The breaks of lines
known to Unicode end lines as well, and control characters are not text.  A key is on one line with
its colon inside of flow collections too.  Only spaces stand in front of a key of a block mapping,
and only known directives are allowed.
-/

namespace Provisioner.Yaml.Scan11

/-- A node that could turn out to be a key. -/
structure SimpleKey where
  /-- Whether it still can. -/
  possible : Bool := false
  /-- Whether it must, by its indentation. -/
  required : Bool := false
  /-- How many tokens are in front of it. -/
  position : Nat := 0
  index : Nat := 0
  line : Nat := 0
  column : Nat := 0

/-- The state of the scanner. -/
structure State where
  /-- What is left of the text. -/
  text : List Char
  /-- Characters gone through. -/
  index : Nat := 0
  /-- Lines gone through. -/
  line : Nat := 0
  /-- Characters gone through on the line. -/
  column : Nat := 0
  /-- The tokens found, the last one first. -/
  tokens : List Token := []
  /-- How many tokens were found. -/
  count : Nat := 0
  /-- Whether a simple key may start here. -/
  keyAllowed : Bool := true
  /-- The last possible key of each flow level, the innermost first. -/
  keys : List SimpleKey := [{}]
  /-- The current indentation. -/
  indent : Int := -1
  /-- The indentations around it, the innermost first. -/
  indents : List Int := []
  /-- How many flow collections are open. -/
  flowLevel : Nat := 0
  /-- A bound on the steps of any loop over the text. -/
  bound : Nat

/-- A step of the scanner. -/
abbrev Scan := StateT State (Except SyntaxError)

/-! ## Characters -/

/-- A character that ends a line. -/
def isLineEnd (c : Char) : Bool := isBreak c || c == '\u0085' || c == '\u2028' || c == '\u2029'

/-- A line break or the end. -/
def isLineEndOrEnd (c : Char) : Bool := isLineEnd c || c == '\x00'

/-- White space, a line break or the end. -/
def isGap (c : Char) : Bool := isBlank c || isLineEndOrEnd c

/-- A character that may be in a text at all. -/
def isAllowed (c : Char) : Bool :=
  c == '\t' || isBreak c || (' ' ≤ c && c ≤ '~') || c == '\u0085' ||
    ('\u00a0' ≤ c && c != '\ufffe' && c != '\uffff')

/-- What the break of a line stands for. -/
def lineBreak (c : Char) : List Char :=
  if c == '\u2028' || c == '\u2029' then [c] else ['\n']

/-! ## Moves -/

/-- Refuse the text at the current place. -/
def refuse {α : Type} (reason : String) : Scan α := do
  let s ← get
  throw ⟨reason, s.line + 1, s.column + 1⟩

/-- The `n`-th character ahead; a zero character past the end. -/
def peek (n : Nat) : Scan Char := return (← get).text.getD n '\x00'

/-- Pass over one character that does not end a line. -/
def skip : Scan Unit := modify fun s =>
  { s with text := s.text.tail, index := s.index + 1, column := s.column + 1 }

/-- Pass over several characters that do not end a line. -/
def skipMany : Nat → Scan Unit
  | 0 => return
  | n + 1 => do skip; skipMany n

/-- Pass over a line break, if there is one; what it stands for. -/
def takeBreak : Scan (List Char) := do
  let c ← peek 0
  if c == '\r' && (← peek 1) == '\n' then skip
  if isLineEnd c then
    modify fun s =>
      { s with text := s.text.tail, index := s.index + 1, column := 0, line := s.line + 1 }
    return lineBreak c
  else return []

/-- Repeat a step as often as the text is long. -/
def bounded {α : Type} (step : Nat → Scan α) : Scan α := do step (← get).bound

/-- Take characters while they are as asked for. -/
def takeWhile (test : Char → Bool) : Nat → List Char → Scan (List Char)
  | 0, taken => return taken.reverse
  | n + 1, taken => do
    let c ← peek 0
    if test c then
      skip
      takeWhile test n (c :: taken)
    else return taken.reverse

/-- Take characters while they are as asked for. -/
def takeAll (test : Char → Bool) : Scan (List Char) := bounded fun n => takeWhile test n []

/-- Pass over characters while they are as asked for. -/
def skipAll (test : Char → Bool) : Scan Unit := do
  let _ ← takeAll test

/-- Pass over a comment, if there is one. -/
def skipComment : Scan Unit := do
  if (← peek 0) == '#' then skipAll fun c => !isLineEndOrEnd c

/-- Whether a simple key may start from here on. -/
def allowKey (allowed : Bool) : Scan Unit := modify fun s => { s with keyAllowed := allowed }

/-- Pass over white space, comments and line breaks to the next token.  A tab does not stand where
a key may start. -/
def skipToNextToken : Nat → Scan Unit
  | 0 => return
  | n + 1 => do
    let s ← get
    if s.index == 0 && (← peek 0) == '\ufeff' then skip
    let tabs := decide (0 < s.flowLevel) || !s.keyAllowed
    skipAll fun c => c == ' ' || (tabs && c == '\t')
    skipComment
    if isLineEnd (← peek 0) then
      let _ ← takeBreak
      if s.flowLevel == 0 then allowKey true
      skipToNextToken n

/-- Pass over the rest of a line that holds white space and a comment only. -/
def skipLineRest (what : String) : Scan Unit := do
  skipAll isBlank
  skipComment
  if !isLineEndOrEnd (← peek 0) then refuse what
  let _ ← takeBreak

/-! ## Tokens and keys -/

/-- Add a token. -/
def emit (token : Token) : Scan Unit := modify fun s =>
  { s with tokens := token :: s.tokens, count := s.count + 1 }

/-- Add a token in front of the one at a position. -/
def insertAt (position : Nat) (token : Token) : Scan Unit := modify fun s =>
  let later := s.count - position
  { s with tokens := s.tokens.take later ++ token :: s.tokens.drop later, count := s.count + 1 }

/-- A possible key is none any more on a later line or after more than 1024 characters. -/
def staleKeys : Scan Unit := do
  let s ← get
  let isStale (k : SimpleKey) : Bool :=
    k.possible && (decide (k.line < s.line) || decide (k.index + 1024 < s.index))
  if s.keys.any fun k => isStale k && k.required then refuse "expected ':' after a key"
  set { s with keys := s.keys.map fun k => if isStale k then { k with possible := false } else k }

/-- The last possible key of the current flow level. -/
def currentKey : Scan SimpleKey := return (← get).keys.headD {}

/-- Put a key in the place of the last one of the current flow level. -/
def setKey (k : SimpleKey) : Scan Unit := modify fun s => { s with keys := k :: s.keys.tail }

/-- The last possible key of the current flow level is none. -/
def dropKey : Scan Unit := do
  let k ← currentKey
  if k.possible && k.required then refuse "expected ':' after a key"
  setKey { k with possible := false }

/-- Remember that a key may start here. -/
def saveKey : Scan Unit := do
  let s ← get
  if s.keyAllowed then
    dropKey
    setKey {
      possible := true, required := s.flowLevel == 0 && s.indent == s.column,
      position := s.count, index := s.index, line := s.line, column := s.column }

/-- Leave the indentations deeper than a column. -/
def unrollTo (column : Int) : Nat → Scan Unit
  | 0 => return
  | n + 1 => do
    let s ← get
    if s.flowLevel == 0 && column < s.indent then
      set { s with indent := s.indents.headD (-1), indents := s.indents.tail }
      emit .blockEnd
      unrollTo column n

/-- Leave the indentations deeper than a column. -/
def unroll (column : Int) : Scan Unit := do unrollTo column ((← get).indents.length + 1)

/-- Open a block collection at a column, unless one is open there; its token goes in front of the
one at `position`, or to the end. -/
def roll (column : Nat) (position : Option Nat) (token : Token) : Scan Unit := do
  let s ← get
  if s.flowLevel == 0 && s.indent < column then
    set { s with indents := s.indent :: s.indents, indent := column }
    match position with
    | some n => insertAt n token
    | none => emit token

/-- Whether the next three characters are `c` and followed by a gap. -/
def isMarker (c : Char) : Scan Bool := do
  return (← peek 0) == c && (← peek 1) == c && (← peek 2) == c && isGap (← peek 3)

/-- Whether a document starts or ends here. -/
def isDocumentMarker : Scan Bool := do
  return (← get).column == 0 && ((← isMarker '-') || (← isMarker '.'))

/-! ## Directives and tags -/

/-- A character of the rest of a tag. -/
def isTagChar (c : Char) : Bool := isWordChar c || ";/?:@&=+$.%!~*'()".toList.contains c

/-- A character of an address. -/
def isUriChar (c : Char) : Bool := isTagChar c || c == ',' || c == '[' || c == ']'

/-- How many bytes a character has that starts with a byte. -/
def formLength (byte : Nat) : Nat :=
  if byte < 0x80 then 1
  else if byte < 0xC0 then 0
  else if byte < 0xE0 then 2
  else if byte < 0xF0 then 3
  else if byte < 0xF8 then 4
  else 0

/-- A byte written as a percent sign and two hexadecimal digits. -/
def percentByte : Scan Nat := do
  match hexValue? (← peek 1), hexValue? (← peek 2) with
  | some high, some low => do
    if (← peek 0) != '%' then refuse "invalid escape in a tag"
    skipMany 3
    return high * 16 + low
  | _, _ => refuse "invalid escape in a tag"

/-- The value of the bytes that go on a character. -/
def continuations : Nat → Nat → Scan Nat
  | 0, value => return value
  | n + 1, value => do
    let byte ← percentByte
    if byte < 0x80 || 0xC0 ≤ byte then refuse "invalid escape in a tag"
    continuations n (value * 64 + (byte - 0x80))

/-- A character written in percent escapes, one for each of its bytes. -/
def percentEscape : Scan Char := do
  let byte ← percentByte
  match formLength byte with
  | 0 => refuse "invalid escape in a tag"
  | 1 => return Char.ofNat byte
  | n + 1 => return Char.ofNat (← continuations n (byte % Nat.pow 2 (6 - n)))

/-- Take characters of an address while they are as asked for, with their escapes read. -/
def takeUri (test : Char → Bool) : Nat → List Char → Scan (List Char)
  | 0, taken => return taken.reverse
  | n + 1, taken => do
    let c ← peek 0
    if !test c then return taken.reverse
    else if c == '%' then
      let d ← percentEscape
      takeUri test n (d :: taken)
    else
      skip
      takeUri test n (c :: taken)

/-- A tag handle: an exclamation mark, letters, and perhaps another one. -/
def tagHandle (inDirective : Bool) : Scan (List Char) := do
  if (← peek 0) != '!' then refuse "expected '!' in a tag"
  skip
  let name ← takeAll isWordChar
  if (← peek 0) == '!' then
    skip
    return '!' :: name ++ ['!']
  else if inDirective && !name.isEmpty then refuse "expected '!' after a tag handle"
  else return '!' :: name

/-- A number of a version. -/
def versionNumber : Scan Nat := do
  let digits ← takeAll Char.isDigit
  if digits.isEmpty || 9 < digits.length then refuse "expected a version number"
  return digits.foldl (fun n d => n * 10 + (d.toNat - 48)) 0

/-- A directive, after its percent sign. -/
def directive : Scan Token := do
  let name ← takeAll isWordChar
  if name.isEmpty || !isGap (← peek 0) then refuse "expected the name of a directive"
  let token ←
    if name == "YAML".toList then do
      skipAll isBlank
      let major ← versionNumber
      if (← peek 0) != '.' then refuse "expected '.' in a version number"
      skip
      let minor ← versionNumber
      if major != 1 || (minor != 1 && minor != 2) then refuse "unknown version"
      pure Token.versionDirective
    else if name == "TAG".toList then do
      skipAll isBlank
      let handle ← tagHandle true
      if !isBlank (← peek 0) then refuse "expected white space after a tag handle"
      skipAll isBlank
      let meaning ← bounded fun n => takeUri isUriChar n []
      if meaning.isEmpty || !isGap (← peek 0) then refuse "expected the meaning of a tag handle"
      pure (Token.tagDirective (String.ofList handle) (String.ofList meaning))
    else refuse "unknown directive"
  skipLineRest "unexpected text after a directive"
  return token

/-- A tag. -/
def tag : Scan Token := do
  let token ←
    if (← peek 1) == '<' then do
      skipMany 2
      let suffix ← bounded fun n => takeUri isUriChar n []
      if suffix.isEmpty || (← peek 0) != '>' then refuse "expected '>' after a tag"
      skip
      pure (Token.tag "" (String.ofList suffix))
    else do
      let handle ← tagHandle false
      let suffix ← bounded fun n => takeUri isTagChar n []
      if 2 ≤ handle.length && handle.getLast? == some '!' then do
        if suffix.isEmpty then refuse "expected the rest of a tag"
        pure (Token.tag (String.ofList handle) (String.ofList suffix))
      else
        let suffix := handle.tail ++ suffix
        if suffix.isEmpty then pure (Token.tag "" "!")
        else pure (Token.tag "!" (String.ofList suffix))
  let c ← peek 0
  if isGap c || (0 < (← get).flowLevel && c == ',') then return token
  else refuse "expected white space after a tag"

/-- The name of an anchor, after its mark. -/
def anchorName : Scan String := do
  skip
  let name ← takeAll isWordChar
  let c ← peek 0
  if name.isEmpty || !(isGap c || "?:,]\x7d%@\u0060".toList.contains c) then
    refuse "expected the name of an anchor"
  return String.ofList name

/-! ## Scalars -/

/-- The mark of a block scalar: its chomping and its indentation, if it is given. -/
def blockHeader : Scan (Chomping × Nat) := do
  let chomping : Scan (Option Chomping) := do
    let c ← peek 0
    if c == '+' then do skip; return some .keep
    else if c == '-' then do skip; return some .strip
    else return none
  let increment : Scan Nat := do
    let c ← peek 0
    if c == '0' then refuse "the indentation of a block scalar must not be zero"
    if c.isDigit then do skip; return c.toNat - 48
    else return 0
  match ← chomping with
  | some found => return (found, ← increment)
  | none => do
    let found ← increment
    if found == 0 then return (.clip, 0)
    else return ((← chomping).getD .clip, found)

/-- Pass over the indentation of a block scalar and its empty lines: what their breaks stand for,
the last one first, and the deepest column reached.  Without an indentation any is passed over. -/
def blockBreaks (indent : Nat) : Nat → List Char → Nat → Scan (List Char × Nat)
  | 0, breaks, deepest => return (breaks, deepest)
  | n + 1, breaks, deepest => do
    let s ← get
    let _ ← takeWhile (· == ' ') (if indent == 0 then s.bound else indent - s.column) []
    let column := (← get).column
    let deepest := max deepest column
    let c ← peek 0
    if (indent == 0 || decide (column < indent)) && c == '\t' then
      refuse "a tab cannot indent a block scalar"
    if isLineEnd c then
      let taken ← takeBreak
      blockBreaks indent n (taken ++ breaks) deepest
    else return (breaks, deepest)

/-- The lines of a block scalar, the last character first; also the break of its last line and
those of the empty lines after it. -/
def blockLines (literal : Bool) (indent : Nat) : Nat → List Char → List Char → Bool → List Char →
    Scan (List Char × List Char × List Char)
  | 0, taken, last, _, breaks => return (taken, last, breaks)
  | n + 1, taken, last, wasBlank, breaks => do
    let c ← peek 0
    if (← get).column != indent || c == '\x00' then return (taken, last, breaks)
    else
      let blank := isBlank c
      let between :=
        if !literal && last == ['\n'] && !wasBlank && !blank then
          if breaks.isEmpty then [' '] else []
        else last
      let line ← takeAll fun c => !isLineEndOrEnd c
      let taken := line.reverse ++ breaks ++ between ++ taken
      let last ← takeBreak
      let (breaks, _) ← bounded fun n => blockBreaks indent n [] 0
      blockLines literal indent n taken last blank breaks

/-- A block scalar, after its mark. -/
def blockScalar (literal : Bool) : Scan Token := do
  skip
  let (chomping, increment) ← blockHeader
  skipLineRest "unexpected text after the mark of a block scalar"
  let around := (← get).indent
  let given := if increment == 0 then 0 else (max around 0).toNat + increment
  let (breaks, deepest) ← bounded fun n => blockBreaks given n [] 0
  let indent := if given == 0 then max deepest (max (around + 1).toNat 1) else given
  let (taken, last, breaks) ← bounded fun n => blockLines literal indent n [] [] false breaks
  let taken := if chomping == .strip then taken else last ++ taken
  let taken := if chomping == .keep then breaks ++ taken else taken
  return .scalar (if literal then .literal else .folded) (String.ofList taken.reverse)

/-- White space between two parts of a flow scalar. -/
structure Gap where
  /-- Whether a line was left. -/
  lines : Bool := false
  /-- What the first line break stands for. -/
  first : List Char := []
  /-- What the breaks after it stand for, the last one first. -/
  more : List Char := []
  /-- Blanks on the first line, the last one first. -/
  blanks : List Char := []

/-- What a gap between two parts of a flow scalar stands for, the last character first: one line
feed is a space, more are line feeds without the first, blanks stay. -/
def Gap.fold (g : Gap) : List Char :=
  if !g.lines then g.blanks
  else if g.first == ['\n'] then if g.more.isEmpty then [' '] else g.more
  else g.more ++ g.first

/-- Go through the white space between two parts of a flow scalar.  A tab does not indent a plain
scalar. -/
def takeGap (indent : Option Int) : Nat → Gap → Scan Gap
  | 0, gap => return gap
  | n + 1, gap => do
    let c ← peek 0
    let column := (← get).column
    if isBlank c then
      if gap.lines && c == '\t' && indent.any fun i => decide ((column : Int) < i) then
        refuse "a tab cannot indent a plain scalar"
      skip
      takeGap indent n (if gap.lines then gap else { gap with blanks := c :: gap.blanks })
    else if isLineEnd c then
      let taken ← takeBreak
      takeGap indent n
        (if gap.lines then { gap with more := taken ++ gap.more }
         else { lines := true, first := taken })
    else return gap

/-- The character of an escape in double quotes. -/
def escape : Scan Char := do
  let c ← peek 1
  match simpleEscape? c with
  | some d => do
    skipMany 2
    return d
  | none =>
    match escapeDigits? c with
    | none => refuse "unknown escape in double quotes"
    | some width => do
      skipMany 2
      match hexNumber? width 0 (← get).text with
      | none => refuse "expected a hexadecimal number in an escape"
      | some code =>
        if h : code.isValidChar then do
          skipMany width
          return Char.ofNatAux code h
        else refuse "an escape of no character"

/-- The characters of a quoted scalar up to white space or its end, the last one first; and whether
they ended in an escaped line break. -/
def quotedPart (single : Bool) : Nat → List Char → Scan (List Char × Bool)
  | 0, taken => return (taken, false)
  | n + 1, taken => do
    let c ← peek 0
    if isGap c then return (taken, false)
    else if single && c == '\'' then
      if (← peek 1) == '\'' then
        skipMany 2
        quotedPart single n ('\'' :: taken)
      else return (taken, false)
    else if !single && c == '"' then return (taken, false)
    else if !single && c == '\\' then
      if isLineEnd (← peek 1) then
        skip
        let _ ← takeBreak
        return (taken, true)
      else
        let d ← escape
        quotedPart single n (d :: taken)
    else
      skip
      quotedPart single n (c :: taken)

/-- The parts of a quoted scalar, the last character first. -/
def quotedParts (single : Bool) : Nat → List Char → Scan (List Char)
  | 0, taken => return taken
  | n + 1, taken => do
    if ← isDocumentMarker then refuse "unexpected document marker in a quoted scalar"
    if (← peek 0) == '\x00' then refuse "unexpected end in a quoted scalar"
    let (taken, escaped) ← bounded fun n => quotedPart single n taken
    if (← peek 0) == (if single then '\'' else '"') then return taken
    let gap ← bounded fun n => takeGap none n { lines := escaped }
    quotedParts single n (gap.fold ++ taken)

/-- A quoted scalar. -/
def quotedScalar (single : Bool) : Scan Token := do
  skip
  let taken ← bounded fun n => quotedParts single n []
  skip
  return .scalar (if single then .singleQuoted else .doubleQuoted) (String.ofList taken.reverse)

/-- The characters of a plain scalar up to white space or its end, the last one first. -/
def plainPart : Nat → List Char → Scan (List Char)
  | 0, taken => return taken
  | n + 1, taken => do
    let c ← peek 0
    let d ← peek 1
    let inFlow := decide (0 < (← get).flowLevel)
    if isGap c then return taken
    else if inFlow && c == ':' && (isFlow d || d == '?') then
      refuse "unexpected ':' in a plain scalar"
    else if (c == ':' && isGap d) || (inFlow && isFlow c) then return taken
    else
      skip
      plainPart n (c :: taken)

/-- The parts of a plain scalar, the last character first, and whether a line was left after the
last one; `gap` is what stands in front of the next part. -/
def plainParts (indent : Int) : Nat → List Char → Gap → Scan (List Char × Bool)
  | 0, taken, gap => return (taken, gap.lines)
  | n + 1, taken, gap => do
    if (← isDocumentMarker) || (← peek 0) == '#' then return (taken, gap.lines)
    let part ← bounded fun n => plainPart n []
    let (taken, gap) := if part.isEmpty then (taken, gap) else (part ++ gap.fold ++ taken, {})
    let c ← peek 0
    if !(isBlank c || isLineEnd c) then return (taken, gap.lines)
    let gap ← bounded fun n => takeGap (some indent) n gap
    let s ← get
    if s.flowLevel == 0 && (s.column : Int) < indent then return (taken, gap.lines)
    plainParts indent n taken gap

/-- A plain scalar. -/
def plainScalar : Scan Token := do
  let indent := (← get).indent + 1
  let (taken, lines) ← bounded fun n => plainParts indent n [] {}
  if lines then allowKey true
  return .scalar .plain (String.ofList taken.reverse)

/-! ## Tokens -/

/-- A node that may be a key and that no key may follow. -/
def node (scan : Scan Token) : Scan Unit := do
  saveKey
  allowKey false
  emit (← scan)

/-- The start of a flow collection. -/
def flowStart (token : Token) : Scan Unit := do
  saveKey
  modify fun s => { s with keys := {} :: s.keys, flowLevel := s.flowLevel + 1, keyAllowed := true }
  skip
  emit token

/-- The end of a flow collection. -/
def flowEnd (token : Token) : Scan Unit := do
  dropKey
  modify fun s =>
    if 0 < s.flowLevel then { s with flowLevel := s.flowLevel - 1, keys := s.keys.tail } else s
  allowKey false
  skip
  emit token

/-- The comma between two entries of a flow collection. -/
def flowEntry : Scan Unit := do
  dropKey
  allowKey true
  skip
  emit .flowEntry

/-- The hyphen of an entry of a block sequence. -/
def blockEntry : Scan Unit := do
  let s ← get
  if s.flowLevel == 0 then
    if !s.keyAllowed then refuse "a block sequence is not allowed here"
    roll s.column none .blockSequenceStart
  dropKey
  allowKey true
  skip
  emit .blockEntry

/-- The mark of a key. -/
def keyMark : Scan Unit := do
  let s ← get
  if s.flowLevel == 0 then
    if !s.keyAllowed then refuse "a mapping is not allowed here"
    roll s.column none .blockMappingStart
  dropKey
  allowKey (s.flowLevel == 0)
  skip
  emit .key

/-- The colon in front of a value. -/
def valueMark : Scan Unit := do
  let s ← get
  let k ← currentKey
  if k.possible then
    insertAt k.position .key
    roll k.column (some k.position) .blockMappingStart
    setKey { k with possible := false }
    allowKey false
  else
    if s.flowLevel == 0 then
      if !s.keyAllowed then refuse "a value is not allowed here"
      roll s.column none .blockMappingStart
    allowKey (s.flowLevel == 0)
  skip
  emit .value

/-- What ends every block collection: the start or end of a document, or a directive. -/
def closeBlocks : Scan Unit := do
  unroll (-1)
  dropKey
  allowKey false

/-- Characters that start no plain scalar. -/
def isIndicator (c : Char) : Bool := isFlow c || "-?:#&*!|>'\"%@\u0060".toList.contains c

/-- Find the next token; whether it is not the last. -/
def next : Scan Bool := do
  bounded skipToNextToken
  staleKeys
  unroll (← get).column
  let s ← get
  let c ← peek 0
  let d ← peek 1
  let inFlow := decide (0 < s.flowLevel)
  if c == '\x00' then
    closeBlocks
    emit .streamEnd
    return false
  if s.column == 0 && c == '%' then
    closeBlocks
    skip
    emit (← directive)
  else if s.column == 0 && (← isMarker '-') then
    closeBlocks
    skipMany 3
    emit .documentStart
  else if s.column == 0 && (← isMarker '.') then
    closeBlocks
    skipMany 3
    emit .documentEnd
  else if c == '[' then flowStart .flowSequenceStart
  else if c == '\x7b' then flowStart .flowMappingStart
  else if c == ']' then flowEnd .flowSequenceEnd
  else if c == '\x7d' then flowEnd .flowMappingEnd
  else if c == ',' then flowEntry
  else if c == '-' && isGap d then blockEntry
  else if c == '?' && (inFlow || isGap d) then keyMark
  else if c == ':' && (inFlow || isGap d) then valueMark
  else if c == '*' then node do return .alias (← anchorName)
  else if c == '&' then node do return .anchor (← anchorName)
  else if c == '!' then node tag
  else if (c == '|' || c == '>') && !inFlow then
    dropKey
    allowKey true
    emit (← blockScalar (c == '|'))
  else if c == '\'' || c == '"' then node (quotedScalar (c == '\''))
  else if (!isBlank c && !isIndicator c) || (c == '-' && !isBlank d) ||
      (!inFlow && (c == '?' || c == ':')) then node plainScalar
  else refuse "unexpected character"
  return true

/-- Find tokens until the last. -/
def loop : Nat → Scan Unit
  | 0 => return
  | n + 1 => do if ← next then loop n

/-- The tokens of a text, the end of the text last.  A byte order mark in front of it is none of
it. -/
def tokens (text : List Char) : Except SyntaxError (List Token) := do
  let text := match text with
    | '\ufeff' :: rest => rest
    | text => text
  if !text.all isAllowed then throw ⟨"control characters are not allowed", 1, 1⟩
  let bound := text.length + 2
  let ((), s) ← (loop bound).run { text, bound }
  return s.tokens.reverse

end Provisioner.Yaml.Scan11
