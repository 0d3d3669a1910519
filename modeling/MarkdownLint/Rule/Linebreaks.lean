import MarkdownLint.Consistency
import MarkdownLint.Rule

/-!
# Line break style

Reports every line feed whose style differs from the accepted one: the style the setting names, or
else that of the first line feed of the text.
-/

namespace MarkdownLint.Linebreaks

/-- The style a setting asks for, or none for consistency. -/
def readOption (setting : Value) : Except OptionError (Option LinebreakStyle) :=
  (preference Value.style LinebreakStyle.all setting).mapError fun e => .refused e.message

def optionValue : Option LinebreakStyle → Value
  | none => .null
  | some style => .style style

def message (expected found : LinebreakStyle) : String :=
  "Expected linebreaks to be " ++ expected.name ++ " (`" ++ expected.escaped ++ "`), not "
    ++ found.name ++ " (`" ++ found.escaped ++ "`)"

/-- The reports on some line feeds, in a document whose accepted style is tracked. -/
def reports (t : Tracker LinebreakStyle) : List (Nat × LinebreakStyle) → List Report
  | [] => []
  | (offset, found) :: feeds =>
    match t.check (some found) with
    | (some expected, t) => ⟨message expected found, .offset offset⟩ :: reports t feeds
    | (none, t) => reports t feeds

def check (preferred : Option LinebreakStyle) (d : Document) : Findings :=
  { reports := reports (.ofPreference preferred) (lineFeeds 0 none d.text.toList) }

def rule (serial : Nat) : Rule :=
  .make serial "linebreak-style" "Warn when line breaks violate a given or detected style."
    readOption optionValue check

end MarkdownLint.Linebreaks
