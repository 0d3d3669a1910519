import MarkdownLint.Number.Length

/-!
# Spans

The stretch of a text, from an offset up to but not including another, that a node was read from.
-/

namespace MarkdownLint

structure Span where
  start : Nat
  stop : Nat
  start_le_stop : start ≤ stop := by omega
  deriving DecidableEq

/-- Two numbers that bound no span. -/
structure InvalidSpan where
  start : Int
  stop : Int
  deriving DecidableEq

def InvalidSpan.message (e : InvalidSpan) : String :=
  showing (tooManyDigitsText "") [e.start, e.stop]
    ("Invalid span [" ++ toString e.start ++ ", " ++ toString e.stop ++ ")")

namespace Span

def ofInts (start stop : Int) : Except InvalidSpan Span :=
  if h : 0 ≤ start ∧ start ≤ stop then .ok ⟨start.toNat, stop.toNat, by omega⟩
  else .error ⟨start, stop⟩

def contains (s t : Span) : Bool :=
  s.start ≤ t.start && t.stop ≤ s.stop

def text (s : Span) : String :=
  "[" ++ toString s.start ++ ", " ++ toString s.stop ++ ")"

end Span

end MarkdownLint
