import MarkdownLint.Diagnostic
import MarkdownLint.Document

/-!
# Sinks

A sink collects the diagnostics of one rule over one document, in the order of the reports, and
marks them with its rule, its source and its severity.  A report that cannot be placed leaves the
sink as it was.
-/

namespace MarkdownLint

/-- Where a report is to be placed.  A node may come with the parent it is meant under. -/
inductive Locatable
  | nowhere
  | node (n : Node) (parent : Option Node)
  | range (r : PositionRange)
  | position (p : Position)
  | offset (o : Int)
  | unsupported (kind : String)

/-- The place that a value stands for: an integer is an offset, and a truth value is none. -/
def Locatable.ofValue : Value → Locatable
  | .null => .nowhere
  | .int n => .offset n
  | v => .unsupported v.kindName

inductive ReportError
  | location (e : LocationError)
  | unlocatable (kind : String)
  deriving DecidableEq

namespace ReportError

def kind : ReportError → String
  | location e => e.kind
  | unlocatable _ => "TypeError"

def message : ReportError → String
  | location e => e.message
  | unlocatable kind => "Cannot locate a diagnostic at " ++ kind

end ReportError

/-- The position and the range of a place in a document. -/
def Document.place (d : Document) :
    Locatable → Except ReportError (Option Position × Option PositionRange)
  | .nowhere => .ok (none, none)
  | .node n parent =>
    match d.anchor n parent with
    | none => .ok (none, none)
    | some span =>
      match d.rangeOf span with
      | .ok r => .ok (some r.start, some r)
      | .error e => .error (.location e)
  | .range r => .ok (some r.start, some r)
  | .position p => .ok (some p, none)
  | .offset o =>
    match d.location.toPosition o with
    | .ok p => .ok (some p, none)
    | .error e => .error (.location e)
  | .unsupported kind => .error (.unlocatable kind)

structure Report where
  message : String
  place : Locatable := .nowhere

structure Sink where
  document : Document
  ruleId : Option String := none
  source : Option String := none
  severity : Severity := .warning
  diagnostics : Array Diagnostic := #[]

namespace Sink

def diagnose (s : Sink) (r : Report) : Except ReportError Diagnostic :=
  (s.document.place r.place).map fun (position, range) =>
    ⟨r.message, position, range, s.ruleId, s.source, s.severity⟩

/-- Records a report, if it can be placed. -/
def report (s : Sink) (r : Report) : Except ReportError (Diagnostic × Sink) :=
  (s.diagnose r).map fun d => (d, { s with diagnostics := s.diagnostics.push d })

/-- Records reports up to the first that cannot be placed. -/
def reportAll (s : Sink) : List Report → Sink × Option ReportError
  | [] => (s, none)
  | r :: rs =>
    match s.report r with
    | .ok (_, t) => t.reportAll rs
    | .error e => (s, some e)

end Sink

end MarkdownLint
