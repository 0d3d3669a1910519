import MarkdownLint.Rule.Registry

/-!
# Runs

A run goes through the entries of a configuration in order and runs the rule of each on a sink of
its own.  A rule that fails loses its diagnostics and leaves a failure in their place; the others
run all the same.
-/

namespace MarkdownLint

abbrev Configuration := List (String × Value)

inductive EntryOutcome
  | failed (e : RuleError)
  | off
  | reported (diagnostics : List Diagnostic)

inductive LogLevel
  | debug
  | error
  deriving DecidableEq

def LogLevel.name : LogLevel → String
  | debug => "DEBUG"
  | error => "ERROR"

structure LogEntry where
  level : LogLevel
  message : String
  deriving DecidableEq

namespace EntryOutcome

def diagnostics : EntryOutcome → List Diagnostic
  | reported ds => ds
  | _ => []

def failures (id : String) : EntryOutcome → List RuleFailure
  | failed e => [{ ruleId := id, errorType := e.kind, message := e.message }]
  | _ => []

def log (id : String) : EntryOutcome → LogEntry
  | failed _ => ⟨.error, "Rule '" ++ id ++ "' failed"⟩
  | off => ⟨.debug, "Rule '" ++ id ++ "' is off"⟩
  | reported ds =>
    ⟨.debug, "Rule '" ++ id ++ "' reported " ++ toString ds.length ++ " diagnostics"⟩

end EntryOutcome

namespace Registry

/-- Runs one rule as its setting says. -/
def runEntry (g : Registry) (d : Document) (id : String) (setting : Value) : EntryOutcome :=
  match g.get id with
  | .error e => .failed e
  | .ok rule =>
    match splitSetting id setting with
    | .error e => .failed e
    | .ok .off => .off
    | .ok (.on severity option) =>
      let sink : Sink :=
        { document := d, ruleId := some rule.id, source := some sourceName, severity := severity }
      match rule.run sink option with
      | (_, some e) => .failed e
      | (sink, none) => .reported sink.diagnostics.toList

/-- Every registered rule with its default setting. -/
def defaultConfiguration (g : Registry) : Configuration :=
  g.available.map fun id => (id, .null)

def outcomes (g : Registry) (d : Document) (c : Configuration) : List (String × EntryOutcome) :=
  c.map fun (id, setting) => (id, g.runEntry d id setting)

end Registry

def LintResult.ofOutcomes (os : List (String × EntryOutcome)) : LintResult :=
  ⟨os.flatMap fun (_, o) => o.diagnostics, os.flatMap fun (id, o) => o.failures id⟩

/-- What a run writes to its log: a line for each entry, and a summary. -/
def runLog (d : Document) (os : List (String × EntryOutcome)) : List LogEntry :=
  let result := LintResult.ofOutcomes os
  os.map (fun (id, o) => o.log id) ++
    [⟨.debug, "Linted document (" ++ toString d.text.length ++ " chars): "
      ++ toString result.diagnostics.length ++ " diagnostics, "
      ++ toString result.failures.length ++ " failures"⟩]

/-- Runs the rules of a configuration over a document; with none, all rules. -/
def Registry.lint (g : Registry) (d : Document) (c : Option Configuration) : LintResult :=
  .ofOutcomes (g.outcomes d (c.getD g.defaultConfiguration))

end MarkdownLint
