import MarkdownLint.Location
import MarkdownLint.Node

/-!
# Building trees

`NodeDraft` gathers the parts of one node whose span is known by offsets.  `Blueprint` describes a
tree over a text by lines and columns, and `Blueprint.build` resolves it: a node comes after its
children, its start before its end, and each takes the next serial number.
-/

namespace MarkdownLint

/-- Entries by key, in the order in which the keys first came; a later value for a key replaces the
earlier one. -/
def putEntry (entries : List (String × Value)) (key : String) (value : Value) :
    List (String × Value) :=
  if entries.any (·.1 = key) then
    entries.map fun e => if e.1 = key then (key, value) else e
  else entries ++ [(key, value)]

def putEntries (entries more : List (String × Value)) : List (String × Value) :=
  more.foldl (fun es e => putEntry es e.1 e.2) entries

/-- A node in the making. -/
structure NodeDraft where
  type : String
  children : List Node := []
  span : Option Span := none
  value : Option String := none
  data : List (String × Value) := []

namespace NodeDraft

def setSpan (d : NodeDraft) (start stop : Int) : Except InvalidSpan NodeDraft := do
  let span ← Span.ofInts start stop
  return { d with span := some span }

def addChildren (d : NodeDraft) (nodes : List Node) : NodeDraft :=
  { d with children := d.children ++ nodes }

def setValue (d : NodeDraft) (value : String) : NodeDraft :=
  { d with value := some value }

def addData (d : NodeDraft) (entries : List (String × Value)) : NodeDraft :=
  { d with data := putEntries d.data entries }

def build (d : NodeDraft) (serial : Nat) : Node :=
  ⟨serial, d.type, d.children, d.span, d.value, d.data⟩

end NodeDraft

/-- A line and a column. -/
abbrev LineColumn := Int × Int

inductive Blueprint
  | root (children : List Blueprint)
  | text (value : String) (start stop : LineColumn)
  | generated (type : String) (value : Option String) (data : List (String × Value))
      (children : List Blueprint)
  | node (type : String) (start stop : LineColumn) (value : Option String)
      (data : List (String × Value)) (children : List Blueprint)

/-- Why a span cannot be built. -/
inductive BuildError
  | location (e : LocationError)
  | invalidSpan (e : InvalidSpan)
  deriving DecidableEq

namespace BuildError

def kind : BuildError → String
  | location e => e.kind
  | invalidSpan _ => "ValueError"

def message : BuildError → String
  | location e => e.message
  | invalidSpan e => e.message

end BuildError

/-- A step of building: it takes the next serial number and gives back the one after its own. -/
abbrev Building := StateT Nat (Except BuildError)

/-- The span of the whole text. -/
def Location.whole (l : Location) : Span :=
  ⟨0, l.length, Nat.zero_le _⟩

namespace Blueprint

def spanBetween (l : Location) (start stop : LineColumn) : Except BuildError Span := do
  let first ← (l.toOffset start.1 start.2).mapError .location
  let last ← (l.toOffset stop.1 stop.2).mapError .location
  (Span.ofInts first last).mapError .invalidSpan

def fresh (draft : NodeDraft) : Building Node := fun serial =>
  .ok (draft.build serial, serial + 1)

mutual

def buildFrom (l : Location) : Blueprint → Building Node
  | .root children => do
    let nodes ← buildAll l children
    fresh { type := "root", children := nodes, span := some l.whole }
  | .text value start stop => do
    let span ← spanBetween l start stop
    fresh { type := "text", span := some span, value := some value }
  | .generated type value data children => do
    let nodes ← buildAll l children
    fresh { type, children := nodes, value, data }
  | .node type start stop value data children => do
    let nodes ← buildAll l children
    let span ← spanBetween l start stop
    fresh { type, children := nodes, span := some span, value, data }

def buildAll (l : Location) : List Blueprint → Building (List Node)
  | [] => return []
  | b :: bs => do
    let node ← buildFrom l b
    let nodes ← buildAll l bs
    return node :: nodes

end

/-- The tree a blueprint describes over a text. -/
def build (text : String) (b : Blueprint) : Except BuildError Node :=
  (buildFrom (.ofText text) b 0).map (·.1)

end Blueprint

end MarkdownLint
