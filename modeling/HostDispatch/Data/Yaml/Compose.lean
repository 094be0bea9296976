import HostDispatch.Data.Yaml.Scan

/-!
# Composing YAML tokens into a node tree

The second stage of reading YAML: tokens become the node tree of the first document. Block
collections end at block-end tokens; flow collections need a `,` between entries; a key without a
value, or an entry without a node, holds an empty scalar. An anchor names the node it precedes,
and an alias refers back to the node last named so; an alias met while its node is still being
read refers to a node containing itself.

Tags are written out in full through the tag directives in force (`!` and `!!` always), and kept
in short form (`!!str`). Only the first document of a stream is read.
-/

namespace HostDispatch

namespace Yaml

/-- The prefix of the standard tags. -/
def standardPrefix : String := "tag:yaml.org,2002:"

/-- A tag in short form: the standard tags as `!!name`. -/
def shortTag (tag : String) : String :=
  if tag.startsWith standardPrefix then "!!" ++ String.ofList (tag.toList.drop standardPrefix.length)
  else tag

/-- The tag of text. -/
def strTag : String := "!!str"

/-- The tag of merge keys. -/
def mergeTag : String := "!!merge"

/-- A node of a YAML document; lines count from one. -/
inductive Node where
  /-- A scalar: its text, its tag in short form (empty when it is to be resolved from the text),
  how it was written, and whether its tag was written out. -/
  | scalar (text tag : String) (style : Style) (line : Nat)
  | sequence (items : List Node) (line : Nat)
  | mapping (pairs : List (Node × Node)) (line : Nat)
  /-- A reference to a named node. -/
  | aliasOf (name : String) (target : Node) (line : Nat)
  /-- A reference to a named node from inside that node. -/
  | loop (name : String) (line : Nat)
deriving Inhabited

/-- The line a node starts on. -/
def Node.line : Node → Nat
  | .scalar _ _ _ l | .sequence _ l | .mapping _ l | .aliasOf _ _ l | .loop _ l => l

/-- A scalar node from a scalar token: a written tag other than `!` is kept; otherwise a quoted
or block scalar is text, a plain `<<` is a merge key, and any other plain scalar is resolved
later from its text. -/
def scalarNode (text : String) (style : Style) (tag : Option String) (line : Nat) : Node :=
  let implicit : Node :=
    if style ≠ .plain then .scalar text strTag style line
    else if text = "<<" then .scalar text mergeTag style line
    else .scalar text "" style line
  match tag with
  | some t => if t ≠ "" && t ≠ "!" then .scalar text (shortTag t) style line else implicit
  | none => implicit

/-- An empty plain scalar at a mark. -/
def emptyNode (m : Mark) : Node := .scalar "" "" .plain (m.line + 1)

/-- What an anchor names: a node still being read, or a node read. -/
inductive Anchored where
  | reading (id : Nat)
  | read (n : Node)

/-- The composer's state. -/
structure Composer where
  scanner : Scanner
  directives : List (String × String)
  anchors : List (String × Anchored)
  opened : Nat

/-- Composing: a state change that may stop with a message. -/
abbrev ComposeM := EStateM String Composer

/-- Run a scanning step inside composing. -/
def liftScan {α : Type} (m : ScanM α) : ComposeM α := fun c =>
  match m c.scanner with
  | .ok a s => .ok a { c with scanner := s }
  | .error e s => .error e { c with scanner := s }

/-- The next token, settled. -/
def peek : ComposeM Token := liftScan peekToken

/-- Take the next token. -/
def advance : ComposeM Unit := liftScan skipToken

/-- Stop with a parsing problem, after the context of the problem when there is one. -/
def parseFail {α : Type} (context : Option Mark) (problem : String) (place : Mark) :
    ComposeM α :=
  throw (problemText false ((context.map (·.line)).getD 0) place.line problem)

/-- A number for each kind of token, ignoring what it carries. -/
def TokenKind.code : TokenKind → Nat
  | .streamStart => 0 | .streamEnd => 1 | .versionDirective .. => 2 | .tagDirective .. => 3
  | .documentStart => 4 | .documentEnd => 5 | .blockSequenceStart => 6
  | .blockMappingStart => 7 | .blockEnd => 8 | .flowSequenceStart => 9
  | .flowSequenceEnd => 10 | .flowMappingStart => 11 | .flowMappingEnd => 12
  | .blockEntry => 13 | .flowEntry => 14 | .key => 15 | .value => 16 | .aliasOf .. => 17
  | .anchor .. => 18 | .tag .. => 19 | .scalar .. => 20

/-- Whether a token is of one of the kinds. -/
def Token.isAny (t : Token) (ks : List TokenKind) : Bool := ks.any (·.code = t.kind.code)

/-- Whether a token is of a kind. -/
def Token.is (t : Token) (k : TokenKind) : Bool := t.isAny [k]

/-- Name a node being read. -/
def openAnchor (name : Option String) : ComposeM Nat := do
  let c ← get
  let id := c.opened
  match name with
  | some a =>
    set { c with opened := id + 1,
                 anchors := (a, .reading id) :: c.anchors.filter (·.1 ≠ a) }
  | none => set { c with opened := id + 1 }
  return id

/-- Record the node read under its name, unless the name was given to another node since. -/
def closeAnchor (name : Option String) (id : Nat) (n : Node) : ComposeM Unit := do
  match name with
  | none => pure ()
  | some a =>
    modify fun c =>
      match c.anchors.lookup a with
      | some (.reading j) =>
        if j = id then { c with anchors := (a, .read n) :: c.anchors.filter (·.1 ≠ a) } else c
      | _ => c

/-- Name a node read at once. -/
def nameNode (name : Option String) (n : Node) : ComposeM Unit := do
  let id ← openAnchor name
  closeAnchor name id n

/-- A node, in a block or a flow context; in a mapping value of a block mapping, a sequence may
start without indentation. -/
def composeNode : Nat → Bool → Bool → ComposeM Node
  | 0, _, _ => throw "yaml: exceeded max depth"
  | fuel + 1, block, indentless => do
    let first ← peek
    if let .aliasOf name := first.kind then
      advance
      let line := first.start.line + 1
      match (← get).anchors.lookup name with
      | none => throw ("yaml: unknown anchor '" ++ name ++ "' referenced")
      | some (.reading _) => return .loop name line
      | some (.read n) => return .aliasOf name n line
    let start := first.start
    let mut tok := first
    let mut anchor : Option String := none
    let mut tagToken : Option (String × String × Mark) := none
    match tok.kind with
    | .anchor a =>
      anchor := some a
      advance
      tok ← peek
      if let .tag h s := tok.kind then
        tagToken := some (h, s, tok.start)
        advance
        tok ← peek
    | .tag h s =>
      tagToken := some (h, s, tok.start)
      advance
      tok ← peek
      if let .anchor a := tok.kind then
        anchor := some a
        advance
        tok ← peek
    | _ => pure ()
    let tag : Option String ← match tagToken with
      | none => pure none
      | some (h, s, m) =>
        if h = "" then pure (some s)
        else match (← get).directives.lookup h with
          | some pre => pure (some (pre ++ s))
          | none => parseFail (some start) "found undefined tag handle" m
    let line := start.line + 1
    let bound := (← get).scanner.text.size + 2
    if indentless && tok.is .blockEntry then
      let id ← openAnchor anchor
      let mut items : Array Node := #[]
      for _ in [0:bound] do
        let t ← peek
        if !t.is .blockEntry then break
        advance
        let t' ← peek
        if !t'.isAny [.blockEntry, .key, .value, .blockEnd] then
          items := items.push (← composeNode fuel true false)
        else items := items.push (emptyNode t.stop)
      let n := Node.sequence items.toList line
      closeAnchor anchor id n
      return n
    match tok.kind with
    | .scalar text style =>
      advance
      let n := scalarNode text style tag line
      nameNode anchor n
      return n
    | .flowSequenceStart =>
      let id ← openAnchor anchor
      let mark := tok.start
      advance
      let mut items : Array Node := #[]
      for k in [0:bound] do
        let mut t ← peek
        if t.is .flowSequenceEnd then break
        if k > 0 then
          if t.is .flowEntry then
            advance
            t ← peek
          else parseFail (some mark) "did not find expected ',' or ']'" t.start
        if t.is .flowSequenceEnd then break
        if t.is .key then
          advance
          let t1 ← peek
          let key ← if !t1.isAny [.value, .flowEntry, .flowSequenceEnd] then
              composeNode fuel false false
            else pure (emptyNode t.stop)
          let t2 ← peek
          let value ← if t2.is .value then do
              advance
              let t3 ← peek
              if !t3.isAny [.flowEntry, .flowSequenceEnd] then composeNode fuel false false
              else pure (emptyNode t3.start)
            else pure (emptyNode t2.start)
          items := items.push (.mapping [(key, value)] (t.start.line + 1))
        else items := items.push (← composeNode fuel false false)
      advance
      let n := Node.sequence items.toList line
      closeAnchor anchor id n
      return n
    | .flowMappingStart =>
      let id ← openAnchor anchor
      let mark := tok.start
      advance
      let mut pairs : Array (Node × Node) := #[]
      for k in [0:bound] do
        let mut t ← peek
        if t.is .flowMappingEnd then break
        if k > 0 then
          if t.is .flowEntry then
            advance
            t ← peek
          else parseFail (some mark) "did not find expected ',' or '\x7d'" t.start
        if t.is .flowMappingEnd then break
        if t.is .key then
          advance
          let t1 ← peek
          let key ← if !t1.isAny [.value, .flowEntry, .flowMappingEnd] then
              composeNode fuel false false
            else pure (emptyNode t1.start)
          let t2 ← peek
          let value ← if t2.is .value then do
              advance
              let t3 ← peek
              if !t3.isAny [.flowEntry, .flowMappingEnd] then composeNode fuel false false
              else pure (emptyNode t3.start)
            else pure (emptyNode t2.start)
          pairs := pairs.push (key, value)
        else
          let key ← composeNode fuel false false
          let t2 ← peek
          pairs := pairs.push (key, emptyNode t2.start)
      advance
      let n := Node.mapping pairs.toList line
      closeAnchor anchor id n
      return n
    | .blockSequenceStart =>
      if !block then
        if anchor.isSome || tag.isSome then
          let n := scalarNode "" .plain tag line
          nameNode anchor n
          return n
        parseFail (some start) "did not find expected node content" tok.start
      let id ← openAnchor anchor
      let mark := tok.start
      advance
      let mut items : Array Node := #[]
      for _ in [0:bound] do
        let t ← peek
        if t.is .blockEntry then
          advance
          let t' ← peek
          if !t'.isAny [.blockEntry, .blockEnd] then
            items := items.push (← composeNode fuel true false)
          else items := items.push (emptyNode t.stop)
        else if t.is .blockEnd then
          advance
          break
        else parseFail (some mark) "did not find expected '-' indicator" t.start
      let n := Node.sequence items.toList line
      closeAnchor anchor id n
      return n
    | .blockMappingStart =>
      if !block then
        if anchor.isSome || tag.isSome then
          let n := scalarNode "" .plain tag line
          nameNode anchor n
          return n
        parseFail (some start) "did not find expected node content" tok.start
      let id ← openAnchor anchor
      let mark := tok.start
      advance
      let mut pairs : Array (Node × Node) := #[]
      for _ in [0:bound] do
        let t ← peek
        if t.is .key then
          advance
          let t1 ← peek
          let key ← if !t1.isAny [.key, .value, .blockEnd] then composeNode fuel true true
            else pure (emptyNode t.stop)
          let t2 ← peek
          let value ← if t2.is .value then do
              advance
              let t3 ← peek
              if !t3.isAny [.key, .value, .blockEnd] then composeNode fuel true true
              else pure (emptyNode t2.stop)
            else pure (emptyNode t2.start)
          pairs := pairs.push (key, value)
        else if t.is .blockEnd then
          advance
          break
        else parseFail (some mark) "did not find expected key" t.start
      let n := Node.mapping pairs.toList line
      closeAnchor anchor id n
      return n
    | _ =>
      if anchor.isSome || tag.isSome then
        let n := scalarNode "" .plain tag line
        nameNode anchor n
        return n
      parseFail (some start) "did not find expected node content" tok.start

/-- The standard tag directives. -/
def standardDirectives : List (String × String) := [("!", "!"), ("!!", standardPrefix)]

/-- The directives before a document, then the standard ones. -/
def readDirectives : ComposeM Unit := do
  let mut version := false
  let mut tags : List (String × String) := []
  for _ in [0:(← get).scanner.text.size + 2] do
    let t ← peek
    match t.kind with
    | .versionDirective major minor =>
      if version then parseFail none "found duplicate %YAML directive" t.start
      if major ≠ 1 || minor ≠ 1 then parseFail none "found incompatible YAML document" t.start
      version := true
      advance
    | .tagDirective h p =>
      if (tags.lookup h).isSome then parseFail none "found duplicate %TAG directive" t.start
      tags := tags ++ [(h, p)]
      advance
    | _ => break
  let all := tags ++ standardDirectives.filter fun (h, _) => (tags.lookup h).isNone
  modify fun c => { c with directives := all }

/-- The root node of the first document of the stream, or none when the stream is empty. -/
def firstDocument : ComposeM (Option Node) := do
  let fuel := (← get).scanner.text.size * 2 + 8
  let t ← peek
  if !t.is .streamStart then parseFail none "did not find expected <stream-start>" t.start
  advance
  let t ← peek
  if t.is .streamEnd then return none
  let root ← if t.isAny [.versionDirective 0 0, .tagDirective "" "", .documentStart] then do
      readDirectives
      let t ← peek
      if !t.is .documentStart then parseFail none "did not find expected <document start>" t.start
      advance
      let t ← peek
      if t.isAny [.versionDirective 0 0, .tagDirective "" "", .documentStart, .documentEnd,
          .streamEnd] then
        pure (emptyNode t.start)
      else composeNode fuel true false
    else do
      readDirectives
      composeNode fuel true false
  let t ← peek
  if t.is .documentEnd then advance
  return some root

/-- How far past its position the scanner may have looked: the longest look-ahead it asks for. -/
def lookAhead : Nat := 4

/-- The root node of the first document of a text, and the number of characters the scanner
reached by then (its position and its look-ahead), whether it succeeded or stopped. -/
def compose (text : String) : Except String (Option Node) × Nat :=
  match firstDocument.run ⟨Scanner.ofText text, [], [], 0⟩ with
  | .ok n c => (.ok n, c.scanner.pos + lookAhead)
  | .error e c => (.error e, c.scanner.pos + lookAhead)

end Yaml

end HostDispatch
