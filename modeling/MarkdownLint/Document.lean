import MarkdownLint.Location
import MarkdownLint.Node.Walk

/-!
# Documents

A text beside its tree.  A node is anchored at its own span or, if it is generated, at the span of
its nearest ancestor that has one.  Parents are found by serial number: a node placed at several
places has the parent of the last of them, unless a rule says which parent it means.
-/

namespace MarkdownLint

structure Document where
  text : String
  tree : Node
  location : Location := .ofText text
  visits : List Visit := tree.walk
  location_eq : location = .ofText text := by rfl
  visits_eq : visits = tree.walk := by rfl

namespace Document

def parentOf (d : Document) (n : Node) : Option Node :=
  d.visits.foldl
    (fun found v => if v.node.serial = n.serial then v.parent.or found else found) none

/-- The first span on the way up from a node, in at most `fuel` steps. -/
def climb (d : Document) : Nat → Option Node → Option Span
  | _, none => none
  | 0, some _ => none
  | fuel + 1, some n =>
    match n.span with
    | some span => some span
    | none => d.climb fuel (d.parentOf n)

/-- The span a node is anchored at, with `parent` as its parent if one is given.  A way up passes
each place of the tree at most once. -/
def anchor (d : Document) (n : Node) (parent : Option Node) : Option Span :=
  match n.span with
  | some span => some span
  | none => d.climb (d.visits.length + 1) (parent.or (d.parentOf n))

def rangeOf (d : Document) (s : Span) : Except LocationError PositionRange := do
  let start ← d.location.toPosition s.start
  let stop ← d.location.toPosition s.stop
  return ⟨start, stop⟩

def startLine (d : Document) (n : Node) : Except LocationError (Option Nat) :=
  match n.span with
  | none => .ok none
  | some span => (d.location.toPosition span.start).map fun p => some p.line

def endLine (d : Document) (n : Node) : Except LocationError (Option Nat) :=
  match n.span with
  | none => .ok none
  | some span => (d.location.toPosition span.stop).map fun p => some p.line

end Document

end MarkdownLint
