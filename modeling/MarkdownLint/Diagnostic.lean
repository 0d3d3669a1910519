import MarkdownLint.Position

/-!
# Diagnostics

What a run of rules produces: a diagnostic for each violation of style, with a place in the text
where there is one, and a failure for each rule that could not be run to its end.
-/

namespace MarkdownLint

inductive Severity
  | warning
  | error
  | fatal
  deriving DecidableEq

def Severity.name : Severity → String
  | warning => "warning"
  | error => "error"
  | fatal => "fatal"

def Severity.ofName? : String → Option Severity
  | "warning" => some warning
  | "error" => some error
  | "fatal" => some fatal
  | _ => none

structure Diagnostic where
  message : String
  position : Option Position := none
  range : Option PositionRange := none
  ruleId : Option String := none
  source : Option String := none
  severity : Severity := .warning
  deriving DecidableEq

namespace Diagnostic

/-- The range, or else the position, or nothing. -/
def label (d : Diagnostic) : String :=
  match d.range, d.position with
  | some r, _ => r.text
  | none, some p => p.text
  | none, none => ""

/-- The message behind its place; a diagnostic without one is shown at the start. -/
def text (d : Diagnostic) : String :=
  (if d.label = "" then "1:1" else d.label) ++ ": " ++ d.message

end Diagnostic

structure RuleFailure where
  ruleId : String
  errorType : String
  message : String
  severity : Severity := .fatal
  deriving DecidableEq

structure LintResult where
  diagnostics : List Diagnostic := []
  failures : List RuleFailure := []
  deriving DecidableEq

namespace LintResult

def isOk (r : LintResult) : Bool :=
  r.failures.isEmpty

def messages (r : LintResult) : List String :=
  r.diagnostics.map (·.text)

end LintResult

end MarkdownLint
