/-!
# Versions of YAML

A document is read by the rules of version 1.2 unless it, or an earlier one, asks for version 1.1.
-/

namespace MarkdownLint.Yaml

inductive Version
  | v1_1
  | v1_2
  deriving DecidableEq

namespace Version

/-- The version with some numbers, of which the first has to be 1. -/
def ofNumbers? (major minor : Nat) : Option Version :=
  match major, minor with
  | 1, 1 => some v1_1
  | 1, 2 => some v1_2
  | _, _ => none

end Version

end MarkdownLint.Yaml
