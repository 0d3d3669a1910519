/-!
# Positions

A point of a text by line and column, counted from 1, and by offset, counted from 0; and a range
between two such points.
-/

namespace MarkdownLint

structure Position where
  line : Nat
  column : Nat
  offset : Nat
  one_le_line : 1 ≤ line := by omega
  one_le_column : 1 ≤ column := by omega
  deriving DecidableEq

def Position.text (p : Position) : String :=
  toString p.line ++ ":" ++ toString p.column

structure PositionRange where
  start : Position
  stop : Position
  deriving DecidableEq

def PositionRange.text (r : PositionRange) : String :=
  r.start.text ++ "-" ++ r.stop.text

end MarkdownLint
