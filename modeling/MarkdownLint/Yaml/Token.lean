import MarkdownLint.Yaml.Fault
import MarkdownLint.Yaml.Version

/-!
# Tokens

What a YAML document is made of.  Besides the tokens that are written in the text there are those
that indentation stands for: the start and the end of a block collection, and the key before a
value on the same line.  Where the text cannot be read on, the last token is the fault.
-/

namespace MarkdownLint.Yaml

inductive Directive
  | version (major minor : Nat)
  | handle (handle expansion : String)
  | other
  deriving DecidableEq

/-- The version a directive asks for. -/
def Directive.version? : Directive → Option Version
  | version major minor => Version.ofNumbers? major minor
  | _ => none

inductive Token
  | streamEnd
  | directive (d : Directive)
  | documentStart
  | documentEnd
  | blockSequenceStart
  | blockMappingStart
  | blockEnd
  | flowSequenceStart
  | flowSequenceEnd
  | flowMappingStart
  | flowMappingEnd
  | blockEntry
  | flowEntry
  | key
  | value
  | alias (name : String)
  | anchor (name : String)
  | tag (handle : Option String) (suffix : String)
  | scalar (text : String) (plain : Bool)
  | fault (f : Fault)
  deriving DecidableEq

end MarkdownLint.Yaml
