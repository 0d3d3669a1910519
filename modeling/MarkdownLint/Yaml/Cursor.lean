import MarkdownLint.Yaml.Fault

/-!
# Cursors

A cursor is a place in a YAML document: the characters still to come, with their number, and the
line and the column reached.  A line is over after a line feed, or after a carriage return that no
line feed follows; a byte order mark takes up no column.

Three further characters are line breaks without starting a new line in this sense: the next line
control, which reads as a line feed, and the separators of lines and paragraphs, which stand for
themselves.
-/

namespace MarkdownLint.Yaml

/-- The characters a document may consist of. -/
def isAllowed (c : Char) : Bool :=
  let n := c.toNat
  n = 9 || n = 10 || n = 13 || (0x20 ≤ n && n ≤ 0x7e) || n = 0x85
    || (0xa0 ≤ n && n ≤ 0xfffd) || 0x10000 ≤ n

/-- The separators of lines and of paragraphs. -/
def isTextSeparator (c : Char) : Bool :=
  c = '\u2028' || c = '\u2029'

def isBreak (c : Char) : Bool :=
  c = '\n' || c = '\r' || c = '\x85' || isTextSeparator c

def isSpaceOrTab (c : Char) : Bool :=
  c = ' ' || c = '\t'

/-- What separates an indicator from what comes after it. -/
def isSeparator (c : Char) : Bool :=
  isSpaceOrTab c || isBreak c

def byteOrderMark : Char := '\uFEFF'

structure Cursor where
  rest : List Char
  left : Nat := rest.length
  line : Nat := 0
  column : Nat := 0
  left_eq : left = rest.length := by rfl

namespace Cursor

def peek? (c : Cursor) (ahead : Nat := 0) : Option Char :=
  c.rest[ahead]?

/-- Whether the text ends at a distance or has a character of a class there. -/
def endsOr (p : Char → Bool) (c : Cursor) (ahead : Nat := 0) : Bool :=
  (c.peek? ahead).all p

/-- Whether there is a character of a class at a distance. -/
def sees (p : Char → Bool) (c : Cursor) (ahead : Nat := 0) : Bool :=
  (c.peek? ahead).any p

def atEnd (c : Cursor) : Bool :=
  c.rest.isEmpty

def next (c : Cursor) : Cursor :=
  match h : c.rest with
  | [] => c
  | ch :: cs =>
    let startsLine := ch = '\n' || (ch = '\r' && cs.head? ≠ some '\n')
    { rest := cs
      left := c.left - 1
      line := if startsLine then c.line + 1 else c.line
      column :=
        if startsLine then 0 else if ch = byteOrderMark then c.column else c.column + 1
      left_eq := by simp [c.left_eq, h] }

theorem next_rest (c : Cursor) : c.next.rest = c.rest.tail := by
  unfold next
  split <;> simp_all

def skip : Nat → Cursor → Cursor
  | 0, c => c
  | n + 1, c => skip n c.next

/-- The characters of the places from here on that meet a condition, and the first place that does
not. -/
def spanWhere (p : Cursor → Bool) (c : Cursor) : List Char × Cursor :=
  match _h : c.rest with
  | [] => ([], c)
  | ch :: _ =>
    if p c then
      let (taken, after) := spanWhere p c.next
      (ch :: taken, after)
    else ([], c)
termination_by c.rest.length
decreasing_by simp [next_rest, *]

/-- The characters up to the first that is not of a class, and the place of that one. -/
def span (p : Char → Bool) (c : Cursor) : List Char × Cursor :=
  c.spanWhere (·.sees p)

def skipWhile (p : Char → Bool) (c : Cursor) : Cursor :=
  (c.span p).2

/-- Steps over spaces as long as the column is left of a limit. -/
def indentTo (limit : Int) (c : Cursor) : Cursor :=
  match _h : c.rest with
  | ' ' :: _ => if c.column < limit then indentTo limit c.next else c
  | _ => c
termination_by c.rest.length
decreasing_by simp [next_rest, *]

/-- The line break here, as the character it reads as, and the place behind it. -/
def lineBreak? (c : Cursor) : Option (Char × Cursor) :=
  match c.rest with
  | '\r' :: '\n' :: _ => some ('\n', c.skip 2)
  | ch :: _ =>
    if isBreak ch then some (if isTextSeparator ch then ch else '\n', c.next) else none
  | [] => none

/-- The place behind a line break, if there is one here. -/
def skipBreak (c : Cursor) : Cursor :=
  (c.lineBreak?.map (·.2)).getD c

/-- Whether there are three dashes or three dots here that stand alone. -/
def atMarker (mark : Char) (c : Cursor) : Bool :=
  c.rest.take 3 = [mark, mark, mark] && c.endsOr isSeparator 3

def atDocumentMarker (c : Cursor) : Bool :=
  c.atMarker '-' || c.atMarker '.'

end Cursor

end MarkdownLint.Yaml
