import MarkdownLint.Text.Surrogate
import MarkdownLint.Yaml.Cursor
import MarkdownLint.Yaml.Version

/-!
# Written scalars

The three ways in which a scalar is written: plain, in quotes, and as a block of lines.  Each reader
starts at the first character of the scalar and gives the text it stands for, with the place behind
it.  Where lines are folded a single line feed reads as a space, and of several the first is
dropped.
-/

namespace MarkdownLint.Yaml

/-- What a line break reads as, given the breaks of the empty lines after it. -/
def foldBreak (first : Char) (more : List Char) : List Char :=
  if first ≠ '\n' then first :: more else if more = [] then [' '] else more

def isHexDigit (c : Char) : Bool :=
  c.isDigit || ('a' ≤ c && c ≤ 'f') || ('A' ≤ c && c ≤ 'F')

def hexDigitValue (c : Char) : Nat :=
  if c.isDigit then c.toNat - '0'.toNat
  else if 'a' ≤ c then c.toNat - 'a'.toNat + 10
  else c.toNat - 'A'.toNat + 10

def natOfHexDigits (cs : List Char) : Nat :=
  cs.foldl (fun n c => n * 16 + hexDigitValue c) 0

namespace Cursor

/-! ### Quoted scalars -/

/-- The breaks of the empty lines from the start of a line on. -/
def quotedBreaks : Nat → Cursor → Except Fault (List Char × Cursor)
  | 0, _ => .error .unreadable
  | fuel + 1, c =>
    if c.atDocumentMarker then .error .unreadable
    else
      let text := c.skipWhile isSpaceOrTab
      match text.lineBreak? with
      | none => .ok ([], text)
      | some (first, after) => do
        let (more, after) ← quotedBreaks fuel after
        return (first :: more, after)

/-- The character that stands behind a backslash for another one. -/
def escapedChar? : Char → Option Char
  | '0' => some '\x00'
  | 'a' => some '\x07'
  | 'b' => some '\x08'
  | 't' => some '\t'
  | '\t' => some '\t'
  | 'n' => some '\n'
  | 'v' => some '\x0b'
  | 'f' => some '\x0c'
  | 'r' => some '\r'
  | 'e' => some '\x1b'
  | ' ' => some ' '
  | '"' => some '"'
  | '/' => some '/'
  | '\\' => some '\\'
  | 'N' => some '\x85'
  | '_' => some '\xa0'
  | 'L' => some '\u2028'
  | 'P' => some '\u2029'
  | _ => none

/-- How many hexadecimal digits follow the letter of an escape. -/
def escapeWidth? : Char → Option Nat
  | 'x' => some 2
  | 'u' => some 4
  | 'U' => some 8
  | _ => none

/-- The code point written after a backslash, and the place behind it, unless what stands there is
no such escape. -/
def codeEscape? (c : Cursor) : Option (Nat × Cursor) := do
  let width ← escapeWidth? (← c.peek?)
  let digits := c.next.rest.take width
  if digits.length = width ∧ digits.all isHexDigit then
    return (natOfHexDigits digits, c.skip (width + 1))
  else none

/-- What an escape stands for, from the place behind the backslash on. -/
def escape (fuel : Nat) (c : Cursor) : Except Fault (List Char × Cursor) :=
  match c.peek? with
  | none => .error .unreadable
  | some ch =>
    match escapedChar? ch with
    | some replacement => .ok ([replacement], c.next)
    | none =>
      match c.codeEscape? with
      | some (code, after) =>
        if code < 0x110000 then .ok ([charOfCode code], after) else .error (.codePoint code)
      | none =>
        match c.lineBreak? with
        | some (_, after) => quotedBreaks fuel after
        | none => .error .unreadable

/-- A character of a quoted scalar that stands for itself. -/
def isLiteral (ch : Char) : Bool :=
  !(isSpaceOrTab ch || isBreak ch || ch = '\'' || ch = '"' || ch = '\\')

/-- The rest of a scalar in quotes, up to the closing one. -/
def quotedRest (quote : Char) : Nat → Cursor → Except Fault (List Char × Cursor)
  | 0, _ => .error .unreadable
  | fuel + 1, c =>
    match c.rest with
    | [] => .error .unreadable
    | ch :: cs =>
      if ch = quote then
        if quote = '\'' ∧ cs.head? = some '\'' then do
          let (text, after) ← quotedRest quote fuel (c.skip 2)
          return ('\'' :: text, after)
        else .ok ([], c.next)
      else if ch = '\\' ∧ quote = '"' then do
        let (replaced, after) ← c.next.escape fuel
        let (text, after) ← quotedRest quote fuel after
        return (replaced ++ text, after)
      else if isSpaceOrTab ch || isBreak ch then do
        let (blanks, text) := c.span isSpaceOrTab
        match text.lineBreak? with
        | none =>
          let (more, after) ← quotedRest quote fuel text
          return (blanks ++ more, after)
        | some (first, after) =>
          let (breaks, after) ← quotedBreaks fuel after
          let (more, after) ← quotedRest quote fuel after
          return (foldBreak first breaks ++ more, after)
      else do
        let (run, after) := c.next.span isLiteral
        let (more, after) ← quotedRest quote fuel after
        return (ch :: run ++ more, after)

/-- Reads a scalar in quotes. -/
def quotedScalar (quote : Char) (c : Cursor) : Except Fault (List Char × Cursor) :=
  quotedRest quote (c.left + 1) c.next

/-! ### Plain scalars -/

/-- Whether the text of a plain scalar goes on here.  In version 1.1 a question mark ends it in a
flow collection. -/
def inPlain (version : Version) (inFlow : Bool) (c : Cursor) : Bool :=
  match c.peek? with
  | none => false
  | some ':' => !c.endsOr isSeparator 1
  | some '?' => !(inFlow && version = .v1_1)
  | some ch => !isSeparator ch && !(inFlow && [',', '[', ']', '\x7b', '\x7d'].contains ch)

/-- What stands between two runs of a plain scalar; without text the scalar is over. -/
structure Gap where
  text : List Char
  crossesLine : Bool
  after : Cursor

/-- The breaks of the empty lines from the start of a line on, or the place of a document
marker. -/
def plainBreaks : Nat → Cursor → Option (List Char) × Cursor
  | 0, c => (none, c)
  | fuel + 1, c =>
    if c.atDocumentMarker then (none, c)
    else
      let text := c.skipWhile (· = ' ')
      match text.lineBreak? with
      | none => (some [], text)
      | some (first, after) =>
        match plainBreaks fuel after with
        | (some more, after) => (some (first :: more), after)
        | (none, after) => (none, after)

def plainGap (c : Cursor) : Gap :=
  let (spaces, text) := c.span (· = ' ')
  match text.lineBreak? with
  | none => ⟨spaces, false, text⟩
  | some (first, after) =>
    match plainBreaks (after.left + 1) after with
    | (some more, after) => ⟨foldBreak first more, true, after⟩
    | (none, after) => ⟨[], true, after⟩

/-- The rest of a plain scalar, and whether a line break was crossed behind its last character. -/
def plainRest (version : Version) (inFlow : Bool) (indent : Int) (crossed : Bool) :
    Nat → Cursor → List Char × Bool × Cursor
  | 0, c => ([], crossed, c)
  | fuel + 1, c =>
    match c.spanWhere (inPlain version inFlow) with
    | ([], _) => ([], crossed, c)
    | (run, behind) =>
      let gap := behind.plainGap
      if gap.text = [] || gap.after.sees (· = '#') || (!inFlow && gap.after.column < indent) then
        (run, gap.crossesLine, gap.after)
      else
        let (more, crossed, after) :=
          plainRest version inFlow indent gap.crossesLine fuel gap.after
        (run ++ (if more = [] then [] else gap.text ++ more), crossed, after)

/-- Reads a plain scalar that stands in a flow collection or at least `indent` columns from the
left. -/
def plainScalar (version : Version) (inFlow : Bool) (indent : Int) (c : Cursor) :
    List Char × Bool × Cursor :=
  plainRest version inFlow indent false (c.left + 1) c

/-! ### Block scalars -/

/-- What becomes of the line breaks at the end of a block. -/
inductive Chomping
  | clip
  | strip
  | keep
  deriving DecidableEq

/-- The place behind an indentation indicator, and its number, which is not zero. -/
def indentIndicator (c : Cursor) : Except Fault (Option Nat × Cursor) :=
  match c.peek? with
  | some ch =>
    if ch = '0' then .error .unreadable
    else if ch.isDigit then .ok (some (ch.toNat - '0'.toNat), c.next)
    else .ok (none, c)
  | none => .ok (none, c)

def chompingIndicator (c : Cursor) : Chomping × Cursor :=
  match c.peek? with
  | some '+' => (.keep, c.next)
  | some '-' => (.strip, c.next)
  | _ => (.clip, c)

/-- The indicators behind the sign of a block, which come in either order. -/
def blockIndicators (c : Cursor) : Except Fault (Chomping × Option Nat × Cursor) := do
  let (chomping, after) := c.chompingIndicator
  let (increment, after) ← after.indentIndicator
  let (chomping, after) :=
    if chomping = .clip ∧ increment.isSome then after.chompingIndicator else (chomping, after)
  if after.endsOr fun ch => ch = ' ' || isBreak ch then return (chomping, increment, after)
  else .error .unreadable

/-- Steps over spaces, a comment and the line end. -/
def skipRestOfLine (c : Cursor) : Except Fault Cursor :=
  let d := c.skipWhile (· = ' ')
  let e := if d.sees (· = '#') then d.skipWhile (!isBreak ·) else d
  if e.endsOr isBreak then .ok e.skipBreak else .error .unreadable

/-- The breaks of the empty lines from here on, each of which may be indented up to a limit. -/
def blockBreaks (limit : Nat) : Nat → Cursor → List Char × Cursor
  | 0, c => ([], c)
  | fuel + 1, c =>
    let text := c.indentTo limit
    match text.lineBreak? with
    | none => ([], text)
    | some (first, after) =>
      let (more, after) := blockBreaks limit fuel after
      (first :: more, after)

/-- The empty lines at the start of a block: their breaks, the indentation of the first of them, and
the deepest indentation up to the first text. -/
structure BlockStart where
  breaks : List Char := []
  first : Option Nat := none
  deepest : Nat := 0
  after : Cursor

def blockStart : Nat → BlockStart → BlockStart
  | 0, s => s
  | fuel + 1, s =>
    let text := s.after.skipWhile (· = ' ')
    let deepest := if s.after.sees (· = ' ') then max s.deepest text.column else s.deepest
    match text.lineBreak? with
    | none => { s with deepest, after := text }
    | some (b, after) =>
      blockStart fuel ⟨s.breaks ++ [b], s.first.or (some text.column), deepest, after⟩

/-- The lines of a block: their text, the break at the end of the last one, the breaks of the empty
lines after it, and the place behind them. -/
structure BlockLines where
  text : List Char := []
  lastBreak : List Char := []
  breaks : List Char
  after : Cursor

/-- Reads the lines that are indented by `indent`, from the first on, before which there are the
breaks of some empty lines. -/
def blockLines (folded toplevel : Bool) (indent : Nat) : Nat → List Char → Cursor → BlockLines
  | 0, breaks, c => { breaks, after := c }
  | fuel + 1, breaks, c =>
    if c.column ≠ indent || c.atEnd then { breaks, after := c }
    else
      let flush := !c.sees isSpaceOrTab
      let (line, behind) := c.span (!isBreak ·)
      let lastBreak := (behind.lineBreak?.map (·.1)).toList
      let (more, after) := blockBreaks indent (behind.left + 1) behind.skipBreak
      let text := breaks ++ line
      let finished := after.column ≠ indent || after.atEnd
        || (toplevel && after.column = 0 && after.atDocumentMarker)
      if finished then ⟨text, lastBreak, more, after⟩
      else
        let joint :=
          if folded && lastBreak = ['\n'] && flush && !after.sees isSpaceOrTab then
            (if more = [] then [' '] else [])
          else lastBreak
        let lines := blockLines folded toplevel indent fuel more after
        { lines with text := text ++ joint ++ lines.text }

/-- Reads a block scalar inside a collection whose column is `parent`. -/
def blockScalar (folded : Bool) (parent : Int) (c : Cursor) :
    Except Fault (List Char × Cursor) := do
  let (chomping, increment, after) ← c.next.blockIndicators
  let start ← after.skipRestOfLine
  let least := (parent + 1).toNat
  let fuel := c.left + 1
  let (indent, breaks, start) ← match increment with
    | some n =>
      let indent := max least 1 + n - 1
      let (breaks, after) := blockBreaks indent fuel start
      pure (indent, breaks, after)
    | none =>
      let blanks := blockStart fuel { after := start }
      match blanks.first with
      | some first =>
        if 0 < first ∧ first < blanks.deepest then .error .unreadable
        else pure (max least blanks.deepest, blanks.breaks, blanks.after)
      | none => pure (max least blanks.deepest, blanks.breaks, blanks.after)
  let lines := blockLines folded (least = 0) indent fuel breaks start
  let ending := match chomping with
    | .clip => lines.lastBreak
    | .strip => []
    | .keep => lines.lastBreak ++ lines.breaks
  return (lines.text ++ ending, lines.after)

end Cursor

end MarkdownLint.Yaml
