import MarkdownLint.Settings.Dotenv
import MarkdownLint.Text.Lowercase
import MarkdownLint.Text.Quoted
import MarkdownLint.Text.Uppercase
import MarkdownLint.Text.Utf8
import MarkdownLint.TreeDocument
import MarkdownLint.Validation

/-!
# Settings

The level of the log and the limits on tree documents.  Each is taken from the first of these that
has it: given values, the environment, a dotenv file, the defaults.  Names of variables carry a
prefix, and their case does not matter.
-/

namespace MarkdownLint

structure Settings where
  logLevel : String := "INFO"
  limits : Limits := {}

/-- Where settings come from. -/
structure SettingsSources where
  given : List (Value × Value) := []
  environment : List (String × String) := []
  dotenv : Option String := none

namespace SettingsSources

def variablePrefix : String := "marklint_"

/-- The last value of a variable, whatever its case. -/
def lastValue {α : Type} (known : List (String × α)) (field : String) : Option α :=
  (known.reverse.find? fun v => lowercase v.1 = variablePrefix ++ field).map (·.2)

/-- The variables of the dotenv file, in which every line end is a line feed. -/
def dotenvVariables (s : SettingsSources) : List (String × Option String) :=
  match s.dotenv with
  | none => []
  | some text =>
    let bindings := Dotenv.read (String.ofList (unifyLineEnds text.toList))
    (Dotenv.expand s.environment bindings).map fun b => (b.name, b.value)

/-- What the sources say on a field. -/
def value? (s : SettingsSources) (field : String) : Option Value :=
  ((Value.lookup field s.given).or ((lastValue s.environment field).map .text)).or
    ((lastValue s.dotenvVariables field).join.map .text)

/-- A field read from the sources, or its default. -/
def readField {α : Type} (s : SettingsSources) (field : String) (default : α)
    (read : Value → Validated α) : Validated α :=
  match s.value? field with
  | some v => (read v).under (.key field)
  | none => .ok default

end SettingsSources

namespace Settings

def read (s : SettingsSources) : Validated Settings :=
  let defaults : Settings := {}
  let level := s.readField "log_level" defaults.logLevel Value.readText
  let size := s.readField "max_document_size" defaults.limits.documentSize Value.readInt
  let count := s.readField "max_node_count" defaults.limits.nodeCount Value.readInt
  let depth := s.readField "max_tree_depth" defaults.limits.treeDepth Value.readInt
  (level.both (size.both (count.both depth))).map fun (l, s, n, d) => ⟨l, ⟨s, n, d⟩⟩

end Settings

/-- A level that the log does not have, in upper case. -/
structure UnknownLevel where
  name : String
  deriving DecidableEq

def UnknownLevel.message (e : UnknownLevel) : String :=
  "Unknown level: " ++ quoted e.name

namespace Settings

/-- The names of levels and how high they are. -/
def levels : List (String × Nat) :=
  [("NOTSET", 0), ("DEBUG", 10), ("INFO", 20), ("WARNING", 30), ("WARN", 30), ("ERROR", 40),
    ("CRITICAL", 50), ("FATAL", 50)]

/-- How high the level of the log is; its case does not matter. -/
def level (s : Settings) : Except UnknownLevel Nat :=
  let name := uppercase s.logLevel
  match levels.lookup name with
  | some height => .ok height
  | none => .error ⟨name⟩

end Settings

end MarkdownLint
