/-!
# Scanning YAML text into tokens

The first stage of reading YAML: text → tokens → node tree → value. The scanner turns characters
into tokens on demand, keeping a queue of tokens read ahead.

Block structure comes from indentation: a token further right than the current indentation opens
a block sequence or mapping, and a token further left closes blocks with block-end tokens. A key
written without `?` (a *simple key*) is only known to be a key when the `:` after it is met, so
the position of every token that could start a simple key is remembered, and a key token is
inserted there later. A simple key must sit on one line within 1024 characters; a key that must be
one (it starts at the indentation of a block mapping) and is not is an error.

A problem stops scanning with a message that names a line when it is not the first: the line of
the context of the problem (counted from one), or else the line of the problem itself.
-/

namespace HostDispatch

namespace Yaml

/-- A place in the text: the characters before it, its line and its column, from zero. -/
structure Mark where
  index : Nat
  line : Nat
  column : Nat
deriving Inhabited, Repr

/-- How a scalar is written. -/
inductive Style where
  | plain
  | single
  | double
  | literal
  | folded
deriving DecidableEq, Inhabited, Repr

/-- The kinds of token. -/
inductive TokenKind where
  | streamStart
  | streamEnd
  | versionDirective (major minor : Nat)
  | tagDirective (handle pre : String)
  | documentStart
  | documentEnd
  | blockSequenceStart
  | blockMappingStart
  | blockEnd
  | flowSequenceStart
  | flowSequenceEnd
  | flowMappingStart
  | flowMappingEnd
  | blockEntry
  | flowEntry
  | key
  | value
  | aliasOf (name : String)
  | anchor (name : String)
  | tag (handle suffix : String)
  | scalar (text : String) (style : Style)
deriving Inhabited, Repr

/-- A token with where it starts and stops. -/
structure Token where
  kind : TokenKind
  start : Mark
  stop : Mark
deriving Inhabited

/-- A place where a simple key may start. -/
structure SimpleKey where
  possible : Bool
  required : Bool
  /-- The number of the token the key would come before. -/
  tokenNumber : Nat
  mark : Mark
deriving Inhabited

/-- The scanner's state. -/
structure Scanner where
  text : Array Char
  pos : Nat
  mark : Mark
  /-- Tokens read and not yet taken. -/
  pending : List Token
  /-- Tokens taken so far. -/
  parsed : Nat
  started : Bool
  indent : Int
  indents : List Int
  keyAllowed : Bool
  /-- One possible simple key per flow level, the innermost last. -/
  keys : Array SimpleKey
  flowLevel : Nat

/-- A scanner at the start of a text. -/
def Scanner.ofText (s : String) : Scanner :=
  { text := s.toList.toArray, pos := 0, mark := ⟨0, 0, 0⟩, pending := [], parsed := 0,
    started := false, indent := -1, indents := [], keyAllowed := false, keys := #[],
    flowLevel := 0 }

/-- The character `k` places ahead, or NUL past the end. -/
def Scanner.char (s : Scanner) (k : Nat) : Char := s.text.getD (s.pos + k) '\x00'

/-- Scanning: a state change that may stop with a message. -/
abbrev ScanM := EStateM String Scanner

/-- The message of a problem met while scanning (`scanning`) or parsing. -/
def problemText (scanning : Bool) (contextLine problemLine : Nat) (problem : String) : String :=
  let raw := if contextLine ≠ 0 then contextLine else problemLine
  let line := if scanning && raw ≠ 0 then raw + 1 else raw
  "yaml: " ++ (if line = 0 then "" else "line " ++ toString line ++ ": ") ++ problem

/-- Stop scanning with a problem whose context starts at a mark. -/
def scanFail {α : Type} (context : Mark) (problem : String) : ScanM α := do
  throw (problemText true context.line (← get).mark.line problem)

/-- A line break. -/
def isBreak (c : Char) : Bool :=
  c = '\r' || c = '\n' || c = '\x85' || c = '\u2028' || c = '\u2029'

/-- A space or a tab. -/
def isBlank (c : Char) : Bool := c = ' ' || c = '\t'

/-- The end of the text. -/
def isEnd (c : Char) : Bool := c = '\x00'

/-- A blank, a line break or the end. -/
def isBlankEnd (c : Char) : Bool := isBlank c || isBreak c || isEnd c

/-- A line break or the end. -/
def isBreakEnd (c : Char) : Bool := isBreak c || isEnd c

/-- A character of names: ASCII letters and digits, `_` and `-`. -/
def isWordChar (c : Char) : Bool := c.isAlphanum || c = '_' || c = '-'

/-- The character `k` places ahead. -/
def ahead (k : Nat) : ScanM Char := do return (← get).char k

/-- How many steps any loop over the text may take. -/
def bound : ScanM Nat := do return (← get).text.size + 2

/-- Step over one character of a line. -/
def skip : ScanM Unit := modify fun s =>
  { s with pos := s.pos + 1,
           mark := { s.mark with index := s.mark.index + 1, column := s.mark.column + 1 } }

/-- Step over a line break; a carriage return and line feed count as one break. -/
def skipLine : ScanM Unit := modify fun s =>
  if s.char 0 = '\r' && s.char 1 = '\n' then
    { s with pos := s.pos + 2, mark := ⟨s.mark.index + 2, s.mark.line + 1, 0⟩ }
  else if isBreak (s.char 0) then
    { s with pos := s.pos + 1, mark := ⟨s.mark.index + 1, s.mark.line + 1, 0⟩ }
  else s

/-- Take one character. -/
def take : ScanM Char := do
  let c ← ahead 0
  skip
  return c

/-- Take a line break: a line feed, unless it is a line or paragraph separator. -/
def takeLine : ScanM String := do
  let c ← ahead 0
  if c = '\r' || c = '\n' || c = '\x85' then
    skipLine
    return "\n"
  else if c = '\u2028' || c = '\u2029' then
    skipLine
    return c.toString
  else return ""

/-- Step over spaces and tabs. -/
def skipBlanks : ScanM Unit := do
  for _ in [0:← bound] do
    if isBlank (← ahead 0) then skip else break

/-- Step over a comment up to the line break. -/
def skipComment : ScanM Unit := do
  if (← ahead 0) = '#' then
    for _ in [0:← bound] do
      if isBreakEnd (← ahead 0) then break
      skip

/-- Queue a token. -/
def enqueue (k : TokenKind) (start stop : Mark) : ScanM Unit :=
  modify fun s => { s with pending := s.pending ++ [⟨k, start, stop⟩] }

/-- Put a token `i` places into the queue. -/
def insertToken (i : Nat) (k : TokenKind) (m : Mark) : ScanM Unit :=
  modify fun s => { s with pending := s.pending.take i ++ ⟨k, m, m⟩ :: s.pending.drop i }

/-- The possible simple key of the innermost flow level. -/
def Scanner.topKey (s : Scanner) : SimpleKey := s.keys.back?.getD default

/-- Replace the possible simple key of the innermost flow level. -/
def setTopKey (k : SimpleKey) : ScanM Unit := modify fun s => { s with keys := s.keys.pop.push k }

/-- Forget the possible simple key of the innermost level; forgetting a required key is an
error. -/
def removeSimpleKey : ScanM Unit := do
  let k := (← get).topKey
  if k.possible then
    if k.required then scanFail k.mark "could not find expected ':'"
    setTopKey { k with possible := false }

/-- Remember that the next token may start a simple key, when keys are allowed here. -/
def saveSimpleKey : ScanM Unit := do
  let s ← get
  if s.keyAllowed then
    let required := s.flowLevel = 0 && s.indent = (s.mark.column : Int)
    let k : SimpleKey := ⟨true, required, s.parsed + s.pending.length, s.mark⟩
    removeSimpleKey
    setTopKey k

/-- Whether the simple key of level `i` is still possible. A key left on an earlier line or more
than 1024 characters back is dropped, and dropping a required key is an error. -/
def keyStillPossible (i : Nat) : ScanM Bool := do
  let s ← get
  let k := s.keys.getD i default
  if !k.possible then return false
  if k.mark.line < s.mark.line || k.mark.index + 1024 < s.mark.index then
    if k.required then scanFail k.mark "could not find expected ':'"
    modify fun s => { s with keys := s.keys.modify i fun k => { k with possible := false } }
    return false
  return true

/-- Close the blocks indented further than `column`, with block ends at the character before
`place`. -/
def unrollIndent (column : Int) (place : Mark) : ScanM Unit := do
  let s ← get
  if s.flowLevel > 0 then return
  let m : Mark := { place with index := place.index - 1 }
  for _ in [0:s.indents.length + 1] do
    if (← get).indent > column then
      enqueue .blockEnd m m
      modify fun s => match s.indents with
        | i :: rest => { s with indent := i, indents := rest }
        | [] => { s with indent := -1 }
    else break

/-- Open a block at `column` when it is further right than the current indentation: the start
token is queued last, or before the token numbered `number`. -/
def rollIndent (column : Nat) (number : Option Nat) (k : TokenKind) (m : Mark) : ScanM Unit := do
  let s ← get
  if s.flowLevel = 0 && s.indent < (column : Int) then
    set { s with indents := s.indent :: s.indents, indent := column }
    match number with
    | none => enqueue k m m
    | some n => insertToken (n - s.parsed) k m

/-- The stream start. -/
def fetchStreamStart : ScanM Unit := do
  modify fun s => { s with indent := -1, keyAllowed := true, keys := #[default], started := true }
  let m := (← get).mark
  enqueue .streamStart m m

/-- The stream end, on a line of its own. -/
def fetchStreamEnd : ScanM Unit := do
  modify fun s =>
    if s.mark.column ≠ 0 then { s with mark := { s.mark with column := 0, line := s.mark.line + 1 } }
    else s
  unrollIndent (-1) (← get).mark
  removeSimpleKey
  modify fun s => { s with keyAllowed := false }
  let m := (← get).mark
  enqueue .streamEnd m m

/-- The digits of a version number. -/
def versionNumber (start : Mark) : ScanM Nat := do
  let mut v := 0
  let mut len := 0
  for _ in [0:← bound] do
    let c ← ahead 0
    if c.isDigit then
      len := len + 1
      if len > 9 then scanFail start "found extremely long version number"
      v := v * 10 + (c.toNat - 48)
      skip
    else break
  if len = 0 then scanFail start "did not find expected version number"
  return v

/-- A tag handle: `!`, `!!` or `!name!`. -/
def tagHandle (directive : Bool) (start : Mark) : ScanM String := do
  if (← ahead 0) ≠ '!' then scanFail start "did not find expected '!'"
  skip
  let mut h := "!"
  for _ in [0:← bound] do
    let c ← ahead 0
    if isWordChar c then
      h := h.push c
      skip
    else break
  if (← ahead 0) = '!' then
    h := h.push '!'
    skip
  else if directive && h ≠ "!" then scanFail start "did not find expected '!'"
  return h

/-- The value of a hexadecimal digit. -/
def hexValue (c : Char) : Nat :=
  if c.isDigit then c.toNat - 48
  else if 'a' ≤ c && c ≤ 'f' then c.toNat - 87
  else if 'A' ≤ c && c ≤ 'F' then c.toNat - 55
  else 0

/-- A hexadecimal digit. -/
def isHex (c : Char) : Bool := c.isDigit || ('a' ≤ c && c ≤ 'f') || ('A' ≤ c && c ≤ 'F')

/-- A character of tag URIs; flow indicators only inside `!<...>`. -/
def isUriChar (verbatim : Bool) (c : Char) : Bool :=
  isWordChar c || ";/?:@&=+$.%!~*'()".toList.contains c ||
    (verbatim && (c = ',' || c = '[' || c = ']'))

/-- One escaped octet `%XX` of a URI. -/
def uriOctet (start : Mark) : ScanM Nat := do
  if (← ahead 0) ≠ '%' || !isHex (← ahead 1) || !isHex (← ahead 2) then
    scanFail start "did not find URI escaped octet"
  let v := hexValue (← ahead 1) * 16 + hexValue (← ahead 2)
  skip
  skip
  skip
  return v

/-- An escaped UTF-8 character `%XX...` of a URI. -/
def uriEscape (start : Mark) : ScanM Char := do
  let lead ← uriOctet start
  let width := if lead &&& 0x80 = 0 then 1 else if lead &&& 0xE0 = 0xC0 then 2
    else if lead &&& 0xF0 = 0xE0 then 3 else if lead &&& 0xF8 = 0xF0 then 4 else 0
  if width = 0 then scanFail start "found an incorrect leading UTF-8 octet"
  let mut v := if width = 1 then lead else if width = 2 then lead &&& 0x1F
    else if width = 3 then lead &&& 0x0F else lead &&& 0x07
  for _ in [1:width] do
    let o ← uriOctet start
    if o &&& 0xC0 ≠ 0x80 then scanFail start "found an incorrect trailing UTF-8 octet"
    v := v * 64 + (o &&& 0x3F)
  return Char.ofNat v

/-- The URI of a tag, after the characters of `head` past its `!`. -/
def tagUri (verbatim : Bool) (head : String) (start : Mark) : ScanM String := do
  let mut s := String.ofList (head.toList.drop 1)
  let mut found : Bool := head ≠ ""
  for _ in [0:← bound] do
    let c ← ahead 0
    if !isUriChar verbatim c then break
    if c = '%' then s := s.push (← uriEscape start)
    else s := s.push (← take)
    found := true
  if !found then scanFail start "did not find expected tag URI"
  return s

/-- A directive line: `%YAML major.minor` or `%TAG handle prefix`. -/
def scanDirective : ScanM Unit := do
  let start := (← get).mark
  skip
  let mut name := ""
  for _ in [0:← bound] do
    let c ← ahead 0
    if isWordChar c then
      name := name.push c
      skip
    else break
  if name = "" then scanFail start "could not find expected directive name"
  if !isBlankEnd (← ahead 0) then scanFail start "found unexpected non-alphabetical character"
  if name = "YAML" then
    skipBlanks
    let major ← versionNumber start
    if (← ahead 0) ≠ '.' then scanFail start "did not find expected digit or '.' character"
    skip
    let minor ← versionNumber start
    enqueue (.versionDirective major minor) start (← get).mark
  else if name = "TAG" then
    skipBlanks
    let handle ← tagHandle true start
    if !isBlank (← ahead 0) then scanFail start "did not find expected whitespace"
    skipBlanks
    let pre ← tagUri true "" start
    if !isBlankEnd (← ahead 0) then
      scanFail start "did not find expected whitespace or line break"
    enqueue (.tagDirective handle pre) start (← get).mark
  else scanFail start "found unknown directive name"
  skipBlanks
  skipComment
  if !isBreakEnd (← ahead 0) then scanFail start "did not find expected comment or line break"
  if isBreak (← ahead 0) then skipLine

/-- An anchor `&name` or an alias `*name`. -/
def scanAnchor (isAlias : Bool) : ScanM Unit := do
  let start := (← get).mark
  skip
  let mut name := ""
  for _ in [0:← bound] do
    let c ← ahead 0
    if isWordChar c then
      name := name.push c
      skip
    else break
  let c ← ahead 0
  if name = "" || !(isBlankEnd c || "?:,]\x7d%@`".toList.contains c) then
    scanFail start "did not find expected alphabetic or numeric character"
  enqueue (if isAlias then .aliasOf name else .anchor name) start (← get).mark

/-- A tag: `!<uri>`, `!!suffix`, `!handle!suffix`, `!suffix` or `!` alone. -/
def scanTag : ScanM Unit := do
  let start := (← get).mark
  let mut handle := ""
  let mut suffix := ""
  if (← ahead 1) = '<' then
    skip
    skip
    suffix ← tagUri true "" start
    if (← ahead 0) ≠ '>' then scanFail start "did not find the expected '>'"
    skip
  else
    let h ← tagHandle false start
    if h.length > 1 && h.back = '!' then
      handle := h
      suffix ← tagUri false "" start
    else
      suffix ← tagUri false h start
      handle := "!"
      if suffix = "" then
        handle := ""
        suffix := "!"
  let c ← ahead 0
  if !isBlankEnd c && ((← get).flowLevel = 0 || c ≠ ',') then
    scanFail start "did not find expected whitespace or line break"
  enqueue (.tag handle suffix) start (← get).mark

/-- Spaces and empty lines before the content of a block scalar, settling its indentation when
it is not yet known: the deepest of these lines, at least one past the enclosing block. -/
def blockScalarBreaks (indent : Nat) (start : Mark) : ScanM (Nat × String) := do
  let mut breaks := ""
  let mut deepest := 0
  for _ in [0:← bound] do
    for _ in [0:← bound] do
      let s ← get
      if (indent = 0 || s.mark.column < indent) && s.char 0 = ' ' then skip else break
    let s ← get
    if s.mark.column > deepest then deepest := s.mark.column
    if (indent = 0 || s.mark.column < indent) && s.char 0 = '\t' then
      scanFail start "found a tab character where an indentation space is expected"
    if !isBreak (s.char 0) then break
    breaks := breaks ++ (← takeLine)
  if indent ≠ 0 then return (indent, breaks)
  let enclosing := (← get).indent + 1
  let i : Int := max (max deepest enclosing) 1
  return (i.toNat, breaks)

/-- A literal (`|`) or folded (`>`) block scalar. -/
def scanBlockScalar (literal : Bool) : ScanM Unit := do
  let start := (← get).mark
  skip
  let mut chomping : Int := 0
  let mut increment := 0
  let c ← ahead 0
  if c = '+' || c = '-' then
    chomping := if c = '+' then 1 else -1
    skip
    let d ← ahead 0
    if d.isDigit then
      if d = '0' then scanFail start "found an indentation indicator equal to 0"
      increment := d.toNat - 48
      skip
  else if c.isDigit then
    if c = '0' then scanFail start "found an indentation indicator equal to 0"
    increment := c.toNat - 48
    skip
    let d ← ahead 0
    if d = '+' || d = '-' then
      chomping := if d = '+' then 1 else -1
      skip
  skipBlanks
  skipComment
  if !isBreakEnd (← ahead 0) then scanFail start "did not find expected comment or line break"
  if isBreak (← ahead 0) then skipLine
  let outer := (← get).indent
  let mut indent := if increment > 0 then
      (if outer ≥ 0 then (outer + increment).toNat else increment)
    else 0
  let (i, breaks) ← blockScalarBreaks indent start
  indent := i
  let mut trailing := breaks
  let mut leading := ""
  let mut text := ""
  let mut leadingBlank := false
  for _ in [0:← bound] do
    let s ← get
    if s.mark.column ≠ indent || isEnd (s.char 0) then break
    let trailingBlank := isBlank (s.char 0)
    if !literal && !leadingBlank && !trailingBlank && leading.front = '\n' then
      if trailing = "" then text := text.push ' '
    else text := text ++ leading
    leading := ""
    text := text ++ trailing
    trailing := ""
    leadingBlank := isBlank (s.char 0)
    for _ in [0:← bound] do
      if isBreakEnd (← ahead 0) then break
      text := text.push (← take)
    leading ← takeLine
    let (_, more) ← blockScalarBreaks indent start
    trailing := more
  if chomping ≠ -1 then text := text ++ leading
  if chomping = 1 then text := text ++ trailing
  enqueue (.scalar text (if literal then .literal else .folded)) start (← get).mark

/-- The character of a one-letter escape of a double-quoted scalar. -/
def escapeChar? (c : Char) : Option Char :=
  if c = '0' then some '\x00' else if c = 'a' then some '\x07' else if c = 'b' then some '\x08'
  else if c = 't' || c = '\t' then some '\t' else if c = 'n' then some '\n'
  else if c = 'v' then some '\x0B' else if c = 'f' then some '\x0C' else if c = 'r' then some '\r'
  else if c = 'e' then some '\x1B' else if c = ' ' then some ' ' else if c = '"' then some '"'
  else if c = '/' then some '/' else if c = '\\' then some '\\' else if c = 'N' then some '\x85'
  else if c = '_' then some '\xA0' else if c = 'L' then some '\u2028'
  else if c = 'P' then some '\u2029' else none

/-- Line breaks inside a scalar folded: a single break becomes a space, more breaks keep all but
the first. -/
def fold (leading trailing : String) : String :=
  if leading.front = '\n' then (if trailing = "" then " " else trailing)
  else leading ++ trailing

/-- Whether a document marker `---` or `...` starts here. -/
def atDocumentMarker : ScanM Bool := do
  let s ← get
  return s.mark.column = 0 &&
    ((s.char 0 = '-' && s.char 1 = '-' && s.char 2 = '-') ||
     (s.char 0 = '.' && s.char 1 = '.' && s.char 2 = '.')) && isBlankEnd (s.char 3)

/-- A single-quoted or double-quoted scalar. -/
def scanFlowScalar (single : Bool) : ScanM Unit := do
  let start := (← get).mark
  skip
  let quote := if single then '\'' else '"'
  let mut text := ""
  for _ in [0:← bound] do
    if ← atDocumentMarker then scanFail start "found unexpected document indicator"
    if isEnd (← ahead 0) then scanFail start "found unexpected end of stream"
    let mut leadingBlanks := false
    for _ in [0:← bound] do
      let c ← ahead 0
      if isBlankEnd c then break
      if single && c = '\'' && (← ahead 1) = '\'' then
        text := text.push '\''
        skip
        skip
      else if c = quote then break
      else if !single && c = '\\' && isBreak (← ahead 1) then
        skip
        skipLine
        leadingBlanks := true
        break
      else if !single && c = '\\' then
        let e ← ahead 1
        let width := if e = 'x' then 2 else if e = 'u' then 4 else if e = 'U' then 8 else 0
        if width = 0 then
          match escapeChar? e with
          | some ch => text := text.push ch
          | none => scanFail start "found unknown escape character"
          skip
          skip
        else
          skip
          skip
          let mut v := 0
          for k in [0:width] do
            let h ← ahead k
            if !isHex h then scanFail start "did not find expected hexdecimal number"
            v := v * 16 + hexValue h
          if (0xD800 ≤ v && v ≤ 0xDFFF) || v > 0x10FFFF then
            scanFail start "found invalid Unicode character escape code"
          text := text.push (Char.ofNat v)
          for _ in [0:width] do skip
      else text := text.push (← take)
    if (← ahead 0) = quote then break
    let mut spaces := ""
    let mut leading := ""
    let mut trailing := ""
    for _ in [0:← bound] do
      let c ← ahead 0
      if isBlank c then
        if !leadingBlanks then spaces := spaces.push (← take) else skip
      else if isBreak c then
        if !leadingBlanks then
          spaces := ""
          leading ← takeLine
          leadingBlanks := true
        else trailing := trailing ++ (← takeLine)
      else break
    if leadingBlanks then text := text ++ fold leading trailing
    else text := text ++ spaces
  skip
  enqueue (.scalar text (if single then .single else .double)) start (← get).mark

/-- A plain scalar, possibly over several lines. -/
def scanPlainScalar : ScanM Unit := do
  let s0 ← get
  let indent : Int := s0.indent + 1
  let start := s0.mark
  let mut stop := s0.mark
  let mut text := ""
  let mut leadingBlanks := false
  let mut spaces := ""
  let mut leading := ""
  let mut trailing := ""
  for _ in [0:← bound] do
    if ← atDocumentMarker then break
    if (← ahead 0) = '#' then break
    for _ in [0:← bound] do
      let s ← get
      let c := s.char 0
      if isBlankEnd c then break
      if (c = ':' && isBlankEnd (s.char 1)) ||
          (s.flowLevel > 0 && (c = ',' || c = '?' || c = '[' || c = ']' || c = '{' || c = '}')) then
        break
      if leadingBlanks then
        text := text ++ fold leading trailing
        leading := ""
        trailing := ""
        leadingBlanks := false
      else if spaces ≠ "" then
        text := text ++ spaces
        spaces := ""
      text := text.push (← take)
      stop := (← get).mark
    let c ← ahead 0
    if !(isBlank c || isBreak c) then break
    for _ in [0:← bound] do
      let s ← get
      let c := s.char 0
      if isBlank c then
        if leadingBlanks && (s.mark.column : Int) < indent && c = '\t' then
          scanFail start "found a tab character that violates indentation"
        if !leadingBlanks then spaces := spaces.push (← take) else skip
      else if isBreak c then
        if !leadingBlanks then
          spaces := ""
          leading ← takeLine
          leadingBlanks := true
        else trailing := trailing ++ (← takeLine)
      else break
    let s ← get
    if s.flowLevel = 0 && (s.mark.column : Int) < indent then break
  enqueue (.scalar text .plain) start stop
  if leadingBlanks then modify fun s => { s with keyAllowed := true }

/-- `---` or `...`: the blocks and the simple key end here. -/
def fetchDocumentIndicator (k : TokenKind) : ScanM Unit := do
  unrollIndent (-1) (← get).mark
  removeSimpleKey
  modify fun s => { s with keyAllowed := false }
  let start := (← get).mark
  skip
  skip
  skip
  enqueue k start (← get).mark

/-- `[` or `{`. -/
def fetchFlowStart (k : TokenKind) : ScanM Unit := do
  saveSimpleKey
  modify fun s => { s with keys := s.keys.push ⟨false, false, 0, s.mark⟩,
                           flowLevel := s.flowLevel + 1, keyAllowed := true }
  let start := (← get).mark
  skip
  enqueue k start (← get).mark

/-- `]` or `}`. -/
def fetchFlowEnd (k : TokenKind) : ScanM Unit := do
  removeSimpleKey
  modify fun s =>
    if s.flowLevel > 0 then { s with flowLevel := s.flowLevel - 1, keys := s.keys.pop } else s
  modify fun s => { s with keyAllowed := false }
  let start := (← get).mark
  skip
  enqueue k start (← get).mark

/-- `,` in a flow collection. -/
def fetchFlowEntry : ScanM Unit := do
  removeSimpleKey
  modify fun s => { s with keyAllowed := true }
  let start := (← get).mark
  skip
  enqueue .flowEntry start (← get).mark

/-- `-` starting a block sequence entry. -/
def fetchBlockEntry : ScanM Unit := do
  let s ← get
  if s.flowLevel = 0 then
    if !s.keyAllowed then
      scanFail s.mark "block sequence entries are not allowed in this context"
    rollIndent s.mark.column none .blockSequenceStart s.mark
  removeSimpleKey
  modify fun s => { s with keyAllowed := true }
  let start := (← get).mark
  skip
  enqueue .blockEntry start (← get).mark

/-- `?` starting a key. -/
def fetchKey : ScanM Unit := do
  let s ← get
  if s.flowLevel = 0 then
    if !s.keyAllowed then scanFail s.mark "mapping keys are not allowed in this context"
    rollIndent s.mark.column none .blockMappingStart s.mark
  removeSimpleKey
  modify fun s => { s with keyAllowed := s.flowLevel = 0 }
  let start := (← get).mark
  skip
  enqueue .key start (← get).mark

/-- `:` after a key: the remembered simple key, if still possible, gets its key token now. -/
def fetchValue : ScanM Unit := do
  let s ← get
  let i := s.keys.size - 1
  if ← keyStillPossible i then
    let s ← get
    let k := s.topKey
    insertToken (k.tokenNumber - s.parsed) .key k.mark
    rollIndent k.mark.column (some k.tokenNumber) .blockMappingStart k.mark
    setTopKey { k with possible := false }
    modify fun s => { s with keyAllowed := false }
  else
    let s ← get
    if s.flowLevel = 0 then
      if !s.keyAllowed then scanFail s.mark "mapping values are not allowed in this context"
      rollIndent s.mark.column none .blockMappingStart s.mark
    modify fun s => { s with keyAllowed := s.flowLevel = 0 }
  let start := (← get).mark
  skip
  enqueue .value start (← get).mark

/-- Step over blanks, comments and line breaks up to the next token. Tabs count as blanks only
in flow collections or where no simple key may start. -/
def skipToToken : ScanM Unit := do
  for _ in [0:← bound] do
    let s ← get
    if s.mark.column = 0 && s.char 0 = '\uFEFF' then skip
    for _ in [0:← bound] do
      let s ← get
      if s.char 0 = ' ' || ((s.flowLevel > 0 || !s.keyAllowed) && s.char 0 = '\t') then skip
      else break
    skipComment
    if isBreak (← ahead 0) then
      skipLine
      modify fun s => if s.flowLevel = 0 then { s with keyAllowed := true } else s
    else break

/-- Whether a character may start a plain scalar here. -/
def startsPlain (s : Scanner) : Bool :=
  let c := s.char 0
  let next := s.char 1
  !(isBlankEnd c || "-?:,[]\x7b\x7d#&*!|>'\"%@`".toList.contains c) ||
    (c = '-' && !isBlank next) ||
    (s.flowLevel = 0 && (c = '?' || c = ':') && !isBlankEnd next)

/-- Read the next token or tokens. -/
def fetchNext : ScanM Unit := do
  if !(← get).started then
    fetchStreamStart
    return
  let before := (← get).mark
  skipToToken
  unrollIndent (← get).mark.column before
  let s ← get
  let c := s.char 0
  let c1 := s.char 1
  let c2 := s.char 2
  let c3 := s.char 3
  let atStart := s.mark.column = 0
  if isEnd c then fetchStreamEnd
  else if atStart && c = '%' then
    unrollIndent (-1) s.mark
    removeSimpleKey
    modify fun s => { s with keyAllowed := false }
    scanDirective
  else if atStart && c = '-' && c1 = '-' && c2 = '-' && isBlankEnd c3 then
    fetchDocumentIndicator .documentStart
  else if atStart && c = '.' && c1 = '.' && c2 = '.' && isBlankEnd c3 then
    fetchDocumentIndicator .documentEnd
  else if c = '[' then fetchFlowStart .flowSequenceStart
  else if c = '{' then fetchFlowStart .flowMappingStart
  else if c = ']' then fetchFlowEnd .flowSequenceEnd
  else if c = '}' then fetchFlowEnd .flowMappingEnd
  else if c = ',' then fetchFlowEntry
  else if c = '-' && isBlankEnd c1 then fetchBlockEntry
  else if c = '?' && (s.flowLevel > 0 || isBlankEnd c1) then fetchKey
  else if c = ':' && (s.flowLevel > 0 || isBlankEnd c1) then fetchValue
  else if c = '*' || c = '&' then
    saveSimpleKey
    modify fun s => { s with keyAllowed := false }
    scanAnchor (c = '*')
  else if c = '!' then
    saveSimpleKey
    modify fun s => { s with keyAllowed := false }
    scanTag
  else if (c = '|' || c = '>') && s.flowLevel = 0 then
    removeSimpleKey
    modify fun s => { s with keyAllowed := true }
    scanBlockScalar (c = '|')
  else if c = '\'' || c = '"' then
    saveSimpleKey
    modify fun s => { s with keyAllowed := false }
    scanFlowScalar (c = '\'')
  else if startsPlain s then
    saveSimpleKey
    modify fun s => { s with keyAllowed := false }
    scanPlainScalar
  else scanFail s.mark "found character that cannot start any token"

/-- Whether more tokens must be read before the first queued one is settled: fewer than three
are queued, or the first may still turn out to follow a simple key. -/
def needMore : ScanM Bool := do
  let s ← get
  if s.pending.length < 3 then return true
  match s.keys.findIdx? (fun k => k.possible && k.tokenNumber = s.parsed) with
  | none => return false
  | some i => keyStillPossible i

/-- Read tokens until the first queued one is settled. -/
def fillQueue : ScanM Unit := do
  for _ in [0:(← bound) * 2 + 8] do
    if ← needMore then fetchNext else break

/-- The first queued token, settled. -/
def peekToken : ScanM Token := do
  fillQueue
  match (← get).pending with
  | t :: _ => return t
  | [] => return ⟨.streamEnd, (← get).mark, (← get).mark⟩

/-- Take the first queued token. -/
def skipToken : ScanM Unit := modify fun s =>
  match s.pending with
  | _ :: rest => { s with pending := rest, parsed := s.parsed + 1 }
  | [] => s

end Yaml

end HostDispatch
