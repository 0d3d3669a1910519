import MarkdownLint.Yaml.Token.Property

/-!
# Tokens of a document

`tokens` splits a document into tokens, the last of which is the end of the stream or a fault.

Whether a node is a key shows only at the colon behind it.  So wherever a node may be a key, a
candidate remembers the number its token has and the place where it starts; when the colon comes,
the key token is put in front of that token.  A candidate has to be on the line of its colon and at
most 1024 characters before it.  As long as the oldest candidate is open the tokens from its own on
are held back, and a fault is met only behind those that are not.
-/

namespace MarkdownLint.Yaml

/-- A node that is a key if a colon follows.  It is required to be one if it starts in the column
of the block collection it stands in. -/
structure Candidate where
  number : Nat
  required : Bool
  start : Cursor

inductive Bracket
  | square
  | curly
  deriving DecidableEq

/-- A flow collection that is open, with the candidate in it. -/
structure FlowLevel where
  bracket : Bracket
  candidate : Option Candidate := none

structure Lexer where
  cursor : Cursor
  /-- The version that a directive asks for, and the one that holds without. -/
  asked : Option Version := none
  usual : Version
  /-- The tokens that are given out, and those that are held back. -/
  given : Array Token := #[]
  held : Array Token := #[]
  /-- The column of the innermost block collection, and of those around it. -/
  indent : Int := -1
  outer : List Int := []
  flow : List FlowLevel := []
  blockCandidate : Option Candidate := none
  /-- Whether a key may start here without a question mark. -/
  mayStartKey : Bool := true

namespace Lexer

def inFlow (s : Lexer) : Bool :=
  !s.flow.isEmpty

def version (s : Lexer) : Version :=
  s.asked.getD s.usual

/-- The number of the next token. -/
def size (s : Lexer) : Nat :=
  s.given.size + s.held.size

def push (s : Lexer) (t : Token) : Lexer :=
  { s with held := s.held.push t }

/-- Puts a token in front of the one with a number, which is held back. -/
def insert (s : Lexer) (number : Nat) (t : Token) : Lexer :=
  { s with held := s.held.insertIdxIfInBounds (number - s.given.size) t }

def candidate (s : Lexer) : Option Candidate :=
  match s.flow with
  | [] => s.blockCandidate
  | level :: _ => level.candidate

def setCandidate (s : Lexer) (c : Option Candidate) : Lexer :=
  match s.flow with
  | [] => { s with blockCandidate := c }
  | level :: levels => { s with flow := { level with candidate := c } :: levels }

/-- Gives up the candidate of the innermost collection. -/
def dropCandidate (s : Lexer) : Except Fault Lexer :=
  match s.candidate with
  | some c => if c.required then .error .unreadable else .ok (s.setCandidate none)
  | none => .ok s

/-- Makes the node that starts here a candidate, where a key may start. -/
def markCandidate (s : Lexer) : Except Fault Lexer :=
  if s.mayStartKey then do
    let s ← s.dropCandidate
    let required := !s.inFlow && s.indent = s.cursor.column
    return s.setCandidate (some ⟨s.size, required, s.cursor⟩)
  else .ok s

/-- How far the colon of a key may be behind its start. -/
def maxKeyLength : Nat := 1024

/-- What is left of a candidate at a place. -/
def keepCandidate (place : Cursor) : Option Candidate → Except Fault (Option Candidate)
  | none => .ok none
  | some c =>
    if c.start.line ≠ place.line ∨ maxKeyLength < c.start.left - place.left then
      if c.required then .error .unreadable else .ok none
    else .ok (some c)

/-- Gives up the candidates that are too far behind. -/
def dropStale (s : Lexer) : Except Fault Lexer := do
  let blockCandidate ← keepCandidate s.cursor s.blockCandidate
  let flow ← s.flow.mapM fun level =>
    (keepCandidate s.cursor level.candidate).map fun c => { level with candidate := c }
  return { s with blockCandidate, flow }

/-- The number of the first token that has to be held back. -/
def firstOpen (s : Lexer) : Nat :=
  (s.blockCandidate :: s.flow.map (·.candidate)).foldl
    (fun least c => match c with | some c => min least c.number | none => least) s.size

/-- Gives up what is stale, if tokens are held back for it. -/
def review (s : Lexer) : Except Fault Lexer :=
  if s.held.isEmpty then .ok s else s.dropStale

/-- Gives out the tokens that need not be held back. -/
def release (s : Lexer) : Lexer :=
  let n := s.firstOpen - s.given.size
  { s with given := s.given ++ s.held.extract 0 n, held := s.held.extract n s.held.size }

/-- Closes the block collections right of a column. -/
def unindentTo (column : Int) (indent : Int) : List Int → Array Token → Int × List Int × Array Token
  | [], tokens => if column < indent then (-1, [], tokens.push .blockEnd) else (indent, [], tokens)
  | i :: is, tokens =>
    if column < indent then unindentTo column i is (tokens.push .blockEnd)
    else (indent, i :: is, tokens)

def unindent (s : Lexer) (column : Int) : Lexer :=
  if s.inFlow then s
  else
    let (indent, outer, held) := unindentTo column s.indent s.outer s.held
    { s with indent, outer, held }

/-- Opens a block collection at a column, unless the innermost one is as far to the right, and
puts its token at a number. -/
def indentAt (s : Lexer) (column : Nat) (number : Nat) (start : Token) : Lexer :=
  if s.indent < column then
    { s with indent := column, outer := s.indent :: s.outer }.insert number start
  else s

def advance (s : Lexer) (n : Nat) : Lexer :=
  { s with cursor := s.cursor.skip n }

/-- Steps over blanks, comments and line breaks to the next token.  Tabs are blanks in flow
collections only. -/
def skipBlanks : Nat → Lexer → Lexer
  | 0, s => s
  | fuel + 1, s =>
    let text := s.cursor.skipWhile fun c => c = ' ' || (s.inFlow && c = '\t')
    let behind := if text.sees (· = '#') then text.skipWhile (!isBreak ·) else text
    match behind.lineBreak? with
    | some (_, after) =>
      skipBlanks fuel { s with cursor := after, mayStartKey := s.mayStartKey || !s.inFlow }
    | none => { s with cursor := behind }

/-! ### The tokens, by their first character -/

def fetchStreamEnd (s : Lexer) : Except Fault Lexer := do
  let s ← (s.unindent (-1)).dropCandidate
  return s.push .streamEnd

def fetchDirective (s : Lexer) : Except Fault Lexer := do
  let s ← (s.unindent (-1)).dropCandidate
  let (directive, after) ← s.cursor.directive s.version
  let asked := directive.version?.or s.asked
  return { s with cursor := after, asked, mayStartKey := false }.push (.directive directive)

/-- Reads the marker before or behind a document.  After the first one the usual version is 1.2. -/
def fetchDocumentMarker (s : Lexer) (t : Token) : Except Fault Lexer := do
  let s ← (s.unindent (-1)).dropCandidate
  let usual := if t = .documentStart then .v1_2 else s.usual
  return ({ s with usual, mayStartKey := false }.advance 3).push t

def fetchFlowStart (s : Lexer) (bracket : Bracket) (t : Token) : Except Fault Lexer := do
  let s ← s.markCandidate
  return ({ s with flow := ⟨bracket, none⟩ :: s.flow, mayStartKey := true }.advance 1).push t

def fetchFlowEnd (s : Lexer) (t : Token) : Except Fault Lexer := do
  let s ← s.dropCandidate
  return ({ s with flow := s.flow.tail, mayStartKey := false }.advance 1).push t

def fetchFlowEntry (s : Lexer) : Except Fault Lexer := do
  let s ← s.dropCandidate
  return ({ s with mayStartKey := true }.advance 1).push .flowEntry

def fetchBlockEntry (s : Lexer) : Except Fault Lexer :=
  if !s.inFlow && !s.mayStartKey then .error .unreadable
  else do
    let s := if s.inFlow then s else s.indentAt s.cursor.column s.size .blockSequenceStart
    let s ← s.dropCandidate
    return ({ s with mayStartKey := true }.advance 1).push .blockEntry

def fetchKey (s : Lexer) : Except Fault Lexer :=
  if !s.inFlow && !s.mayStartKey then .error .unreadable
  else do
    let s := if s.inFlow then s else s.indentAt s.cursor.column s.size .blockMappingStart
    let s ← s.dropCandidate
    return ({ s with mayStartKey := !s.inFlow }.advance 1).push .key

def fetchValue (s : Lexer) : Except Fault Lexer :=
  match s.candidate with
  | some key =>
    let s := (s.setCandidate none).insert key.number .key
    let s := if s.inFlow then s else s.indentAt key.start.column key.number .blockMappingStart
    .ok (({ s with mayStartKey := false }.advance 1).push .value)
  | none =>
    if !s.inFlow && !s.mayStartKey then .error .unreadable
    else
      let s := if s.inFlow then s else s.indentAt s.cursor.column s.size .blockMappingStart
      .ok (({ s with mayStartKey := !s.inFlow }.advance 1).push .value)

/-- A token that may be, or begin, a key. -/
def fetchNode (s : Lexer) (read : Cursor → Except Fault (Token × Cursor)) : Except Fault Lexer := do
  let s ← s.markCandidate
  let (token, after) ← read s.cursor
  return { s with cursor := after, mayStartKey := false }.push token

def fetchQuoted (s : Lexer) (quote : Char) : Except Fault Lexer :=
  s.fetchNode fun c =>
    (c.quotedScalar quote).map fun (text, after) => (.scalar (String.ofList text) false, after)

def fetchPlain (s : Lexer) : Except Fault Lexer := do
  let s ← s.markCandidate
  let (text, crossed, after) := s.cursor.plainScalar s.version s.inFlow (s.indent + 1)
  return { s with cursor := after, mayStartKey := crossed }.push (.scalar (String.ofList text) true)

def fetchBlock (s : Lexer) (folded : Bool) : Except Fault Lexer := do
  let s ← s.dropCandidate
  let (text, after) ← s.cursor.blockScalar folded s.indent
  return { s with cursor := after, mayStartKey := true }.push (.scalar (String.ofList text) false)

/-- Whether a colon here is the indicator of a value.  In a flow mapping only the colon behind
another value has to be followed by a separator, and in version 1.1 none in a flow collection. -/
def atValue (s : Lexer) : Bool :=
  let separated := s.cursor.endsOr isSeparator 1
  if s.inFlow && s.version = .v1_1 then true else
  match s.flow with
  | ⟨.curly, _⟩ :: _ => separated || s.held.back? ≠ some .value
  | _ => separated

/-- Whether a plain scalar may start here. -/
def atPlain (s : Lexer) : Bool :=
  match s.cursor.peek? with
  | none => false
  | some ch =>
    if isSpaceOrTab ch || isBreak ch then false
    else if !("-?:,[]\x7b\x7d#&*!|>'\"%@`".toList.contains ch) then true
    else if ch = '-' then !s.cursor.endsOr isSeparator 1
    else if ch = ':' && s.inFlow then !s.cursor.sees isSpaceOrTab 1
    else (ch = '?' || ch = ':') && !s.inFlow && !s.cursor.endsOr isSeparator 1

/-- Reads the token at the cursor. -/
def fetchHere (s : Lexer) : Except Fault Lexer :=
  let c := s.cursor
  let separated := c.endsOr isSeparator 1
  let plain : Except Fault Lexer := if s.atPlain then s.fetchPlain else .error .unreadable
  match c.peek? with
  | none => s.fetchStreamEnd
  | some '%' => if c.column = 0 then s.fetchDirective else plain
  | some '-' =>
    if c.column = 0 ∧ c.atMarker '-' then s.fetchDocumentMarker .documentStart
    else if separated then s.fetchBlockEntry
    else plain
  | some '.' =>
    if c.column = 0 ∧ c.atMarker '.' then s.fetchDocumentMarker .documentEnd else plain
  | some '[' => s.fetchFlowStart .square .flowSequenceStart
  | some '\x7b' => s.fetchFlowStart .curly .flowMappingStart
  | some ']' => s.fetchFlowEnd .flowSequenceEnd
  | some '\x7d' => s.fetchFlowEnd .flowMappingEnd
  | some ',' => s.fetchFlowEntry
  | some '?' => if s.inFlow || separated then s.fetchKey else plain
  | some ':' => if s.atValue then s.fetchValue else plain
  | some '*' => s.fetchNode fun c => c.anchorName.map fun (name, after) => (.alias name, after)
  | some '&' => s.fetchNode fun c => c.anchorName.map fun (name, after) => (.anchor name, after)
  | some '!' => s.fetchNode fun c => c.tag s.version
  | some '|' => if s.inFlow then plain else s.fetchBlock false
  | some '>' => if s.inFlow then plain else s.fetchBlock true
  | some '\'' => s.fetchQuoted '\''
  | some '"' => s.fetchQuoted '"'
  | some _ => plain

def fetch (s : Lexer) : Except Fault Lexer := do
  let s ← (s.skipBlanks (s.cursor.left + 1)).dropStale
  (s.unindent s.cursor.column).fetchHere

/-- Fetches tokens until the end of the stream.  Of the tokens held back when a fault is met, none
counts. -/
def run : Nat → Lexer → Array Token
  | 0, s => s.given.push (.fault .unreadable)
  | fuel + 1, s =>
    match s.review with
    | .error f => s.given.push (.fault f)
    | .ok reviewed =>
      let ready := reviewed.release
      match ready.fetch with
      | .error f => ready.given.push (.fault f)
      | .ok s => if s.held.back? = some .streamEnd then s.given ++ s.held else run fuel s

end Lexer

/-- The tokens of a document that is of some version if it has no marker at its start.  A byte order
mark there is no part of it. -/
def tokens (usual : Version) (text : String) : List Token :=
  let cs := text.toList
  if cs.all isAllowed then
    let start : Cursor := { rest := cs }
    let start := if start.sees (· = byteOrderMark) then start.next else start
    (Lexer.run (cs.length + 1) { cursor := start, usual }).toList
  else [.fault .unreadable]

end MarkdownLint.Yaml
