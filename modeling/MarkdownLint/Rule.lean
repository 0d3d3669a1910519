import MarkdownLint.Sink
import MarkdownLint.Text.Blank
import MarkdownLint.Validation
import MarkdownLint.Value.Render

/-!
# Rules

A rule reads its option from a setting and checks a document under that option.  A check answers
with the reports it makes, in order, and with what stopped it if it did not come to its end.  The
setting is read before anything is reported, so a setting that is refused leaves the sink alone.

A message that refuses a setting shows it, so with an integer in it that is too long to be written
there is another error in its place.
-/

namespace MarkdownLint

/-- The name that findings and rules of this library go by. -/
def sourceName : String := "marklint"

/-- Why a check did not come to its end: a place that the document does not have, or a fault of
the check's own, with the name of its kind. -/
inductive CheckError
  | report (e : ReportError)
  | crash (kind message : String)
  deriving DecidableEq

namespace CheckError

def kind : CheckError → String
  | report e => e.kind
  | crash kind _ => kind

def message : CheckError → String
  | report e => e.message
  | crash _ message => message

end CheckError

/-- What a check makes known: reports, and how it ended if not well. -/
structure Findings where
  reports : List Report := []
  ending : Option CheckError := none

namespace Findings

/-- One more report before the others. -/
def cons (r : Report) (f : Findings) : Findings :=
  { f with reports := r :: f.reports }

/-- Records the reports in a sink, up to the first that cannot be placed. -/
def record (f : Findings) (s : Sink) : Sink × Option CheckError :=
  match s.reportAll f.reports with
  | (t, some e) => (t, some (.report e))
  | (t, none) => (t, f.ending)

end Findings

/-- Why a setting gives no option: it is refused for a reason, or it has issues as a record, or
reading it failed. -/
inductive OptionError
  | refused (reason : String)
  | invalid (issues : List Issue)
  | crash (kind message : String)
  deriving DecidableEq

/-- The kinds of errors by which a reader of options refuses a setting. -/
def refusalKinds : List String :=
  ["TypeError", "ValueError", "OutOfRangeError", "MalformedTreeError",
    "MalformedConfigurationError", "UnicodeDecodeError"]

/-- What an error of a reader of options means for the setting. -/
def OptionError.ofRaised (kind message : String) : OptionError :=
  if refusalKinds.contains kind then refused message else crash kind message

/-- A setting that was read: the option as a value, and the check under that option. -/
structure Prepared where
  option : Value
  check : Document → Findings

/-- A rule; two with one serial number are one rule. -/
structure Rule where
  serial : Nat
  id : String
  description : String
  prepare : Value → Except OptionError Prepared

inductive RuleError
  | unknownRule (id : String) (available : List String)
  | malformed (id : String) (setting : Value) (reason : String)
  | integerTooLong
  | check (e : CheckError)

namespace RuleError

/-- The error for a setting that is refused, whose message shows some values. -/
def ofRefused (id : String) (setting : Value) (reason : String) (shown : List Value) : RuleError :=
  if shown.all Value.isShowable then malformed id setting reason else integerTooLong

def kind : RuleError → String
  | unknownRule _ _ => "UnknownRuleError"
  | malformed _ _ _ => "MalformedConfigurationError"
  | integerTooLong => "ValueError"
  | check e => e.kind

def message : RuleError → String
  | unknownRule id available =>
    "Unknown rule '" ++ id ++ "'. Available: " ++ Value.commaSeparated available
  | malformed id setting reason =>
    "Invalid setting " ++ setting.render ++ " for rule '" ++ id ++ "': " ++ reason
  | integerTooLong => tooManyDigitsText ""
  | check e => e.message

end RuleError

namespace Rule

/-- A rule from a reader of options and a check that takes the option read. -/
def make {α : Type} (serial : Nat) (id description : String)
    (readOption : Value → Except OptionError α) (toValue : α → Value)
    (check : α → Document → Findings) : Rule :=
  ⟨serial, id, description, fun setting =>
    (readOption setting).map fun option => ⟨toValue option, check option⟩⟩

def origin (r : Rule) : String :=
  sourceName ++ ":" ++ r.id

def configure (r : Rule) (setting : Value) : Except RuleError Prepared :=
  (r.prepare setting).mapError fun
    | .refused reason => .ofRefused r.id setting reason [setting]
    | .invalid issues =>
      .ofRefused r.id setting ("; ".intercalate (issues.map (·.fault.message))) [setting]
    | .crash kind message => .check (.crash kind message)

def options (r : Rule) (setting : Value) : Except RuleError Value :=
  (r.configure setting).map (·.option)

/-- Runs a rule over the document of a sink. -/
def run (r : Rule) (s : Sink) (setting : Value) : Sink × Option RuleError :=
  match r.configure setting with
  | .error e => (s, some e)
  | .ok prepared =>
    let (t, ending) := (prepared.check s.document).record s
    (t, ending.map .check)

/-- The description of a rule: the one given or, if that is empty, the first line of its
documentation. -/
def describe (documentation : Option String) (description : String) : String :=
  if description ≠ "" then description
  else String.ofList (firstLine (trimBoth isBlank (documentation.getD "").toList))

end Rule

/-- Whether a rule runs, and if so with which severity and with which setting of its own. -/
inductive Activation
  | off
  | on (severity : Severity) (option : Value)

/-- The severity that a name or a number stands for, where being off is none. -/
def severityLevel : Value → Option (Option Severity)
  | .text "off" => some none
  | .int 0 => some none
  | .text "on" => some (some .warning)
  | .text "warn" => some (some .warning)
  | .int 1 => some (some .warning)
  | .text "error" => some (some .error)
  | .int 2 => some (some .error)
  | _ => none

/-- What a setting with a severity and an option says. -/
def activation (ruleId : String) (setting level option : Value) : Except RuleError Activation :=
  match severityLevel level with
  | none =>
    .error (.ofRefused ruleId setting ("unknown severity " ++ level.render) [level, setting])
  | some none => .ok .off
  | some (some severity) => .ok (.on severity option)

/-- Reads a setting that is a list of a severity and perhaps an option. -/
def splitItems (ruleId : String) (setting : Value) : List Value → Except RuleError Activation
  | [level] => activation ruleId setting level .null
  | [level, option] => activation ruleId setting level option
  | _ => .error (.ofRefused ruleId setting "expected [severity] or [severity, option]" [setting])

/-- Separates the severity in a setting from the option. -/
def splitSetting (ruleId : String) (setting : Value) : Except RuleError Activation :=
  match setting with
  | .bool false => .ok .off
  | .bool true => .ok (.on .warning .null)
  | .null => .ok (.on .warning .null)
  | .list items => splitItems ruleId setting items
  | .tuple items => splitItems ruleId setting items
  | _ => .ok (.on .warning setting)

end MarkdownLint
