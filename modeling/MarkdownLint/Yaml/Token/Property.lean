import MarkdownLint.Text.Utf8
import MarkdownLint.Yaml.Token
import MarkdownLint.Yaml.Token.Scalar

/-!
# Written properties and directives

Anchors, aliases and tags, which stand before or in place of a node, and the directives before a
document.
-/

namespace MarkdownLint.Yaml

/-- A character of an anchor's name: no blank, no control character, and none that has a meaning
in a flow collection. -/
def isAnchorChar (c : Char) : Bool :=
  let n := c.toNat
  ((0x21 ≤ n && n ≤ 0x7e) || 0xa0 ≤ n) && c ≠ byteOrderMark
    && !([',', '[', ']', '\x7b', '\x7d'].contains c)

def isWordChar (c : Char) : Bool :=
  c.isAlphanum || c = '-' || c = '_'

/-- A character of a tag or of what a handle expands to; a percent sign begins an escaped byte. -/
def isTagChar (version : Version) (c : Char) : Bool :=
  c.isAlphanum || "-;/?:@&=+$,_.!~*'()[]".toList.contains c || (version = .v1_2 && c = '#')

namespace Cursor

def require (p : Char → Bool) (c : Cursor) : Except Fault Unit :=
  if c.endsOr p then .ok () else .error .unreadable

/-- A blank or a break that may stand behind a tag or a directive. -/
def isSpaceOrBreak (c : Char) : Bool :=
  c = ' ' || isBreak c

/-- Reads the name behind the sign of an anchor or an alias. -/
def anchorName (c : Cursor) : Except Fault (String × Cursor) := do
  let (name, after) := c.next.span isAnchorChar
  if name = [] then .error .unreadable
  else
    after.require fun ch => isSpaceOrTab ch || isBreak ch || "?:,[]\x7b\x7d%@`".toList.contains ch
    return (String.ofList name, after)

/-- The bytes of the percent escapes from here on. -/
def percentBytes : Nat → Cursor → Except Fault (List UInt8 × Cursor)
  | 0, c => .ok ([], c)
  | fuel + 1, c =>
    match c.rest with
    | '%' :: high :: low :: _ =>
      if isHexDigit high && isHexDigit low then do
        let (more, after) ← percentBytes fuel (c.skip 3)
        return (UInt8.ofNat (natOfHexDigits [high, low]) :: more, after)
      else .error .unreadable
    | '%' :: _ => .error .unreadable
    | _ => .ok ([], c)

def tagTextFrom (version : Version) : Nat → Cursor → Except Fault (List Char × Cursor)
  | 0, c => .ok ([], c)
  | fuel + 1, c =>
    match c.peek? with
    | some '%' => do
      let (bytes, after) ← c.percentBytes (c.left + 1)
      match Utf8.decode bytes with
      | .error _ => .error .unreadable
      | .ok text =>
        let (more, after) ← tagTextFrom version fuel after
        return (text.toList ++ more, after)
    | some ch =>
      if isTagChar version ch then
        let (run, after) := c.span (isTagChar version)
        (tagTextFrom version fuel after).map fun (more, after) => (run ++ more, after)
      else .ok ([], c)
    | none => .ok ([], c)

/-- Reads the text of a tag, which is not empty. -/
def tagText (version : Version) (c : Cursor) : Except Fault (String × Cursor) := do
  let (text, after) ← c.tagTextFrom version (c.left + 1)
  if text = [] then .error .unreadable else return (String.ofList text, after)

/-- Reads a tag handle: an exclamation mark alone, or a word between two of them. -/
def tagHandle (c : Cursor) : Except Fault (String × Cursor) :=
  match c.rest with
  | '!' :: ' ' :: _ => .ok ("!", c.next)
  | '!' :: _ =>
    let (word, after) := c.next.span isWordChar
    if after.sees (· = '!') then .ok (String.ofList ('!' :: word ++ ['!']), after.next)
    else .error .unreadable
  | _ => .error .unreadable

/-- Reads a tag: in angle brackets, with a handle, or the exclamation mark alone.  The mark may be
doubled everywhere, which makes a difference only where it is the handle. -/
def tag (version : Version) (c : Cursor) : Except Fault (Token × Cursor) := do
  let doubled := c.sees (· = '!') 1
  let c := if doubled then c.next else c
  let (token, after) ←
    if c.sees (· = '<') 1 then do
      let (suffix, after) ← (c.skip 2).tagText version
      if after.sees (· = '>') then pure (Token.tag none suffix, after.next)
      else .error .unreadable
    else if c.endsOr isSeparator 1 then pure (Token.tag none "!", c.next)
    else do
      let (word, _) := c.next.span (!isSpaceOrBreak ·)
      let (handle, after) ←
        if word.contains '!' then c.tagHandle else pure (if doubled then "!!" else "!", c.next)
      let (suffix, after) ← after.tagText version
      pure (Token.tag (some handle) suffix, after)
  after.require isSpaceOrBreak
  return (token, after)

/-- Reads a number of a version. -/
def versionNumber (c : Cursor) : Except Fault (Nat × Cursor) :=
  match c.span Char.isDigit with
  | ([], _) => .error .unreadable
  | (digits, after) =>
    if mostDigits < digits.length then .error (.tooManyDigits digits.length)
    else .ok (digits.foldl (fun n d => n * 10 + (d.toNat - '0'.toNat)) 0, after)

def directiveBody (version : Version) (name : List Char) (c : Cursor) :
    Except Fault (Directive × Cursor) :=
  let spaced := c.skipWhile (· = ' ')
  if name = "YAML".toList then do
    let (major, after) ← spaced.versionNumber
    if after.sees (· = '.') then
      let (minor, after) ← after.next.versionNumber
      after.require isSpaceOrBreak
      return (.version major minor, after)
    else .error .unreadable
  else if name = "TAG".toList then do
    let (handle, after) ← spaced.tagHandle
    if after.sees (· = ' ') then
      let (expansion, after) ← (after.skipWhile (· = ' ')).tagText version
      after.require isSpaceOrBreak
      return (.handle handle expansion, after)
    else .error .unreadable
  else .ok (.other, c.skipWhile (!isBreak ·))

/-- Reads a directive with the rest of its line. -/
def directive (version : Version) (c : Cursor) : Except Fault (Directive × Cursor) := do
  let (name, after) := c.next.span fun ch => isWordChar ch || ch = ':' || ch = '.'
  if name = [] then .error .unreadable
  else
    after.require isSpaceOrBreak
    let (directive, after) ← directiveBody version name after
    let after ← after.skipRestOfLine
    return (directive, after)

end Cursor

end MarkdownLint.Yaml
