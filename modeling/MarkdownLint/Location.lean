import MarkdownLint.Number.Length
import MarkdownLint.Position
import MarkdownLint.Text.LineStart

/-!
# Locations

The line starts of a text, to turn an offset into a line and a column and back.  A column may be
one past the last character of its line, where the line end or the end of the text is, and no
further.

`findStart`, `findPosition` and `findOffset` answer with what is out of range, `lineStart`,
`toPosition` and `toOffset` with the error that says so.  Its message shows the integers that were
asked for, so with one that is too long to be written there is another error in its place.
-/

namespace MarkdownLint

/-- A place a text does not have. -/
inductive OutOfRange
  | offset (offset : Int) (length : Nat)
  | line (line : Int) (count : Nat)
  | column (line column : Int) (offset : Int) (length : Nat)
  deriving DecidableEq

namespace OutOfRange

/-- What is wrong, with the line and the column written in a given way. -/
def messageWith (line column : String) : OutOfRange → String
  | .offset o length =>
    "Offset " ++ toString o ++ " is outside the document (0.." ++ toString length ++ ")"
  | .line _ count => "Line " ++ line ++ " is outside the document (1.." ++ toString count ++ ")"
  | .column _ _ _ _ => "Column " ++ column ++ " is outside line " ++ line

def message (e : OutOfRange) : String :=
  match e with
  | .offset _ _ => e.messageWith "" ""
  | .line n _ => e.messageWith (toString n) ""
  | .column l c _ _ => e.messageWith (toString l) (toString c)

/-- The integers asked for that the message shows. -/
def shown : OutOfRange → List Int
  | .offset o _ => [o]
  | .line n _ => [n]
  | .column l c _ _ => [c, l]

/-- The offset asked for and the length of the text, where an offset is known. -/
def offset? : OutOfRange → Option (Int × Nat)
  | .offset o length => some (o, length)
  | .line _ _ => none
  | .column _ _ o length => some (o, length)

end OutOfRange

/-- Why a location has no answer: the text does not have the place, or the message that says so
would have to show an integer that is too long to be written. -/
inductive LocationError
  | outOfRange (e : OutOfRange)
  | integerTooLong
  deriving DecidableEq

namespace LocationError

def ofOutOfRange (e : OutOfRange) : LocationError :=
  showing integerTooLong e.shown (outOfRange e)

def kind : LocationError → String
  | outOfRange _ => "OutOfRangeError"
  | integerTooLong => "ValueError"

def message : LocationError → String
  | outOfRange e => e.message
  | integerTooLong => tooManyDigitsText ""

end LocationError

/-- Why there is no offset for a line and perhaps a column. -/
inductive OffsetError
  | noColumn
  | location (e : LocationError)
  deriving DecidableEq

namespace OffsetError

def kind : OffsetError → String
  | noColumn => "TypeError"
  | location e => e.kind

def message : OffsetError → String
  | noColumn => "to_offset() needs a column when given a line number"
  | location e => e.message

end OffsetError

/-- How many of the first entries of a sorted array are at most `x`, known to be at least `lo` and
at most `hi`. -/
def countAtMost (sorted : Array Nat) (x lo hi : Nat) : Nat :=
  if lo < hi then
    let middle := (lo + hi) / 2
    if x < sorted.getD middle 0 then countAtMost sorted x lo middle
    else countAtMost sorted x (middle + 1) hi
  else lo
termination_by hi - lo

structure Location where
  length : Nat
  starts : Array Nat

namespace Location

def ofText (text : String) : Location :=
  let cs := text.toList
  ⟨cs.length, (lineStarts cs).toArray⟩

def lineCount (l : Location) : Nat :=
  l.starts.size

/-- The offset of the first character of a line. -/
def findStart (l : Location) (line : Int) : Except OutOfRange Nat :=
  if 1 ≤ line ∧ line ≤ l.lineCount then .ok (l.starts.getD (line.toNat - 1) 0)
  else .error (.line line l.lineCount)

def findPosition (l : Location) (offset : Int) : Except OutOfRange Position :=
  if offset < 0 ∨ l.length < offset then .error (.offset offset l.length)
  else
    let index := countAtMost l.starts offset.toNat 0 l.lineCount - 1
    let start := l.starts.getD index 0
    .ok { line := index + 1, column := offset.toNat - start + 1, offset := offset.toNat }

/-- The offset at which a line ends: that of the last character of its line end, or the length of
the text for the last line. -/
def lineLimit (l : Location) (line : Int) : Nat :=
  if line < l.lineCount then l.starts.getD line.toNat 0 - 1 else l.length

def findOffset (l : Location) (line column : Int) : Except OutOfRange Nat := do
  let start ← l.findStart line
  let offset := start + column - 1
  if column < 1 ∨ l.lineLimit line < offset then .error (.column line column offset l.length)
  else .ok offset.toNat

def lineStart (l : Location) (line : Int) : Except LocationError Nat :=
  (l.findStart line).mapError .ofOutOfRange

def toPosition (l : Location) (offset : Int) : Except LocationError Position :=
  (l.findPosition offset).mapError .ofOutOfRange

def toOffset (l : Location) (line column : Int) : Except LocationError Nat :=
  (l.findOffset line column).mapError .ofOutOfRange

/-- The offset for a line and a column, which has to be there. -/
def askOffset (l : Location) (line : Int) (column : Option Int) : Except OffsetError Nat :=
  match column with
  | none => .error .noColumn
  | some c => (l.toOffset line c).mapError .location

end Location

end MarkdownLint
