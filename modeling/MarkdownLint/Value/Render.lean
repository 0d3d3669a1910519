import MarkdownLint.Number.Length
import MarkdownLint.Number.Shortest
import MarkdownLint.Text.Quoted
import MarkdownLint.Value

/-!
# Values in messages

`Value.render` shows a value with all its parts, texts in quotes.  `Value.label` is the value
itself where it is a text, a style or a date, the fields of options, and what `render` shows
otherwise.  An integer with too many digits cannot be shown (`Value.isShowableWith`).
-/

namespace MarkdownLint.Value

def commaSeparated (parts : List String) : String :=
  ", ".intercalate parts

def renderBool (b : Bool) : String :=
  if b then "True" else "False"

def renderZone (z : Zone) : String :=
  "tzinfo=datetime.timezone(" ++ shownMinutes z.minutes ++ ", " ++ quoted z.name ++ ")"

/-- The numbers of a moment down to the last of second and microsecond that is not zero, and the
zone. -/
def renderMoment (t : Moment) : String :=
  let fine := if t.microsecond ≠ 0 then [t.second, t.microsecond]
    else if t.second ≠ 0 then [t.second] else []
  let numbers := [t.date.year, t.date.month, t.date.day, t.hour, t.minute] ++ fine
  "datetime.datetime("
    ++ commaSeparated (numbers.map toString ++ (t.zone.map renderZone).toList) ++ ")"

def renderDate (d : Date) : String :=
  "datetime.date(" ++ commaSeparated ([d.year, d.month, d.day].map toString) ++ ")"

def renderOptions (o : BlankLineOptions) : String :=
  "except_tight_lists=" ++ renderBool o.exceptTightLists

mutual

/-- Whether a value holds no integer that is too long; `link` tells it of the collection a reference
stands for. -/
def isShowableWith (link : Nat → Bool) : Value → Bool
  | int n => isWritable n
  | list items => areShowable link items
  | tuple items => areShowable link items
  | map entries => areShowableEntries link entries
  | orderedMap entries => areShowableEntries link entries
  | set items => areShowable link items
  | ref n => link n
  | _ => true

def areShowable (link : Nat → Bool) : List Value → Bool
  | [] => true
  | v :: vs => isShowableWith link v && areShowable link vs

def areShowableEntries (link : Nat → Bool) : List (Value × Value) → Bool
  | [] => true
  | (k, v) :: es =>
    isShowableWith link k && isShowableWith link v && areShowableEntries link es

end

mutual

/-- Shows a value; `link` shows the collection a reference stands for. -/
def renderWith (link : Nat → String) : Value → String
  | null => "None"
  | bool b => renderBool b
  | int n => toString n
  | float x => x.text
  | text s => quoted s
  | list items => "[" ++ commaSeparated (renderItems link items) ++ "]"
  | tuple [item] => "(" ++ renderWith link item ++ ",)"
  | tuple items => "(" ++ commaSeparated (renderItems link items) ++ ")"
  | map entries => "\x7b" ++ commaSeparated (renderEntries link entries) ++ "\x7d"
  | orderedMap [] => "ordereddict()"
  | orderedMap entries =>
    "ordereddict([" ++ commaSeparated (renderPairs link entries) ++ "])"
  | set [] => "set()"
  | set items => "\x7b" ++ commaSeparated (renderItems link items) ++ "\x7d"
  | bytes bs => quotedBytes bs
  | date d => renderDate d
  | moment t => renderMoment t
  | style .unix => "<LinebreakStyle.UNIX: 'unix'>"
  | style .windows => "<LinebreakStyle.WINDOWS: 'windows'>"
  | blankLines o => "MissingBlankLinesOptions(" ++ renderOptions o ++ ")"
  | ref n => link n

def renderItems (link : Nat → String) : List Value → List String
  | [] => []
  | v :: vs => renderWith link v :: renderItems link vs

def renderEntries (link : Nat → String) : List (Value × Value) → List String
  | [] => []
  | (k, v) :: es => (renderWith link k ++ ": " ++ renderWith link v) :: renderEntries link es

def renderPairs (link : Nat → String) : List (Value × Value) → List String
  | [] => []
  | (k, v) :: es =>
    ("(" ++ renderWith link k ++ ", " ++ renderWith link v ++ ")") :: renderPairs link es

end

def render (v : Value) : String :=
  v.renderWith fun _ => "..."

/-- Whether a value can be shown, references apart. -/
def isShowable (v : Value) : Bool :=
  v.isShowableWith fun _ => true

/-- How a collection is shown within itself. -/
def renderCycle : Value → String
  | list _ => "[...]"
  | orderedMap _ => "..."
  | _ => "\x7b...\x7d"

/-- Shows a value among collections that references stand for, inside some of them. -/
def renderAmong (collections : Array Value) : Nat → List Nat → Value → String
  | 0, _, v => v.render
  | fuel + 1, within, v => v.renderWith fun n =>
    let w := collections.getD n null
    if within.contains n then w.renderCycle else renderAmong collections fuel (n :: within) w

/-- Whether a value can be shown among collections that references stand for. -/
def isShowableAmong (collections : Array Value) : Nat → List Nat → Value → Bool
  | 0, _, _ => true
  | fuel + 1, within, v => v.isShowableWith fun n =>
    within.contains n || isShowableAmong collections fuel (n :: within) (collections.getD n null)

def label : Value → String
  | text s => s
  | style s => s.name
  | date d => d.text
  | moment t => t.text " "
  | blankLines o => renderOptions o
  | v => v.render

end MarkdownLint.Value
