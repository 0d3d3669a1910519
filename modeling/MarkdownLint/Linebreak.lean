/-!
# Line break styles

A line feed is a line break of the Unix style, or of the Windows style if a carriage return stands
before it.  A carriage return alone is no line break in this sense.
-/

namespace MarkdownLint

inductive LinebreakStyle
  | unix
  | windows
  deriving DecidableEq

namespace LinebreakStyle

def all : List LinebreakStyle := [unix, windows]

def name : LinebreakStyle → String
  | unix => "unix"
  | windows => "windows"

/-- How a break of the style is shown in a message. -/
def escaped : LinebreakStyle → String
  | unix => "\\n"
  | windows => "\\r\\n"

/-- The style of a line feed, from the character before it. -/
def after (before : Option Char) : LinebreakStyle :=
  if before = some '\r' then windows else unix

/-- The style of a line feed at an index, from the character before that index.  None is before
the start; past the end of the text there is no answer. -/
def at? (cs : List Char) (i : Int) : Option LinebreakStyle :=
  if 0 < i then (cs[(i - 1).toNat]?).map fun c => after (some c) else some unix

end LinebreakStyle

/-- The line feeds of a text that goes on after the character `before`, at offset `o`, each with
its style. -/
def lineFeeds : Nat → Option Char → List Char → List (Nat × LinebreakStyle)
  | _, _, [] => []
  | o, before, c :: cs =>
    if c = '\n' then (o, .after before) :: lineFeeds (o + 1) (some c) cs
    else lineFeeds (o + 1) (some c) cs

end MarkdownLint
