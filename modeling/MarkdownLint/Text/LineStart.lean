/-!
# Line starts

A line ends at a line feed, at a carriage return that no line feed follows, or at a carriage
return with the line feed after it, which together count once.  `lineStarts` lists the offsets
at which lines begin: 0, and the offset past each line end.
-/

namespace MarkdownLint

/-- The offsets past each line end of a text whose first character is at offset `o`. -/
def lineEnds : Nat → List Char → List Nat
  | _, [] => []
  | o, '\r' :: '\n' :: cs => (o + 2) :: lineEnds (o + 2) cs
  | o, c :: cs =>
    if c = '\n' ∨ c = '\r' then (o + 1) :: lineEnds (o + 1) cs else lineEnds (o + 1) cs

def lineStarts (cs : List Char) : List Nat :=
  0 :: lineEnds 0 cs

end MarkdownLint
