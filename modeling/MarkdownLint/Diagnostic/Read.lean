import MarkdownLint.Diagnostic
import MarkdownLint.Validation

/-!
# Reading diagnostics

Positions, ranges, diagnostics, failures and results read from untrusted values.  A field with two
names may be given under either; the one used in serialized form comes first.
-/

namespace MarkdownLint

open Value

def Position.read : Value → Validated Position :=
  readRecord "Position" fun entries =>
    let line := required entries ["line"] (readAtLeast 1)
    let column := required entries ["column"] (readAtLeast 1)
    let offset := required entries ["offset"] (readAtLeast 0)
    (line.both (column.both offset)).map fun (l, c, o) => ⟨l, c, o, l.2, c.2⟩

def PositionRange.read : Value → Validated PositionRange :=
  readRecord "PositionRange" fun entries =>
    let start := required entries ["start"] Position.read
    let stop := required entries ["end"] Position.read
    (start.both stop).map fun (s, e) => ⟨s, e⟩

def Severity.read (v : Value) : Validated Severity :=
  match v.asText?.bind Severity.ofName? with
  | some severity => .ok severity
  | none => .fail .notSeverity

def Diagnostic.read : Value → Validated Diagnostic :=
  readRecord "Diagnostic" fun entries =>
    let message := required entries ["message"] readText
    let position := optional entries ["position"] none (readOption Position.read)
    let range := optional entries ["range"] none (readOption PositionRange.read)
    let ruleId := optional entries ["ruleId", "rule_id"] none (readOption readText)
    let source := optional entries ["source"] none (readOption readText)
    let severity := optional entries ["severity"] .warning Severity.read
    (message.both (position.both (range.both (ruleId.both (source.both severity))))).map
      fun (m, p, r, i, s, v) => ⟨m, p, r, i, s, v⟩

def RuleFailure.read : Value → Validated RuleFailure :=
  readRecord "RuleFailure" fun entries =>
    let ruleId := required entries ["ruleId", "rule_id"] readText
    let errorType := required entries ["errorType", "error_type"] readText
    let message := required entries ["message"] readText
    let severity := optional entries ["severity"] .fatal Severity.read
    (ruleId.both (errorType.both (message.both severity))).map fun (i, t, m, v) => ⟨i, t, m, v⟩

def LintResult.read : Value → Validated LintResult :=
  readRecord "LintResult" fun entries =>
    let diagnostics := optional entries ["diagnostics"] [] (readList Diagnostic.read)
    let failures := optional entries ["failures"] [] (readList RuleFailure.read)
    (diagnostics.both failures).map fun (ds, fs) => ⟨ds, fs⟩

end MarkdownLint
