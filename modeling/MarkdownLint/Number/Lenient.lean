import MarkdownLint.Number.Length
import MarkdownLint.Text.Blank

/-!
# Integers read leniently

A text is read as an integer after white space at its ends is dropped.  It may begin with a sign,
then with zeros, have single underscores between digits, and end in a point with zeros after it.  A
sign may also stand behind leading zeros.

A minus counts as one of the digits that an integer may have.  A text that begins with an integer of
more, written without needless zeros, is `tooLong`, whatever comes after it; any other text that is
no integer is `malformed`.
-/

namespace MarkdownLint

inductive IntegerFault
  | malformed
  | tooLong
  deriving DecidableEq

/-- Drops zeros, and underscores among them, before the first other digit.  Before a point, and at
the end, the last of them stays.  Refuses a text that begins with neither a digit nor a minus. -/
def dropLeadingZeros : List Char → Option (List Char)
  | [] => none
  | c :: cs =>
    let isDropped (d : Char) := d = '0' || d = '_'
    let begins (d : Char) := d = '-' || ('1' ≤ d && d ≤ '9')
    if c = '0' then
      let last := (cs.takeWhile isDropped).getLastD c
      match cs.dropWhile isDropped with
      | [] => some [last]
      | d :: ds =>
        if d = '.' then some (last :: d :: ds) else if begins d then some (d :: ds) else none
    else if begins c then some (c :: cs)
    else none

/-- Drops leading zeros behind a minus, if there is one. -/
def dropSignedZeros : List Char → Option (List Char)
  | '-' :: cs => (dropLeadingZeros cs).map ('-' :: ·)
  | cs => dropLeadingZeros cs

/-- Drops a point with zeros after it, and nothing else. -/
def dropZeroFraction (cs : List Char) : Option (List Char) :=
  match cs.dropWhile (· ≠ '.') with
  | [] => some cs
  | _ :: fraction =>
    if fraction ≠ [] ∧ fraction.all (· = '0') then some (cs.takeWhile (· ≠ '.')) else none

def hasDoubleUnderscore : List Char → Bool
  | '_' :: '_' :: _ => true
  | _ :: cs => hasDoubleUnderscore cs
  | [] => false

/-- Drops underscores, unless one stands at an end or two together. -/
def dropUnderscores (cs : List Char) : Option (List Char) :=
  if cs.head? = some '_' ∨ cs.getLast? = some '_' ∨ hasDoubleUnderscore cs then none
  else some (cs.filter (· ≠ '_'))

def natOfDigits (cs : List Char) : Nat :=
  cs.foldl (fun n c => n * 10 + (c.toNat - '0'.toNat)) 0

/-- The integer that a minus, if there is one, and digits without needless zeros denote. -/
def intOfDigits? (cs : List Char) : Option Int :=
  let digits (ds : List Char) : Option Nat :=
    if ds ≠ [] ∧ ds.all Char.isDigit ∧ (ds.head? = some '0' → ds.length = 1) then
      some (natOfDigits ds)
    else none
  match cs with
  | '-' :: ds => (digits ds).map fun n => -n
  | ds => (digits ds).map fun n => n

/-- A text without what may stand around the digits of an integer. -/
def bareInteger? (cs : List Char) : Option (List Char) := do
  let unsigned ← match cs with
    | '+' :: '-' :: _ => none
    | '+' :: cs => some cs
    | cs => some cs
  let significant ← dropSignedZeros unsigned
  let whole ← dropZeroFraction significant
  dropUnderscores whole

/-- Whether a text begins with an integer that is too long. -/
def beginsTooLong (cs : List Char) : Bool :=
  let (sign, ds) := match cs with
    | '-' :: ds => (1, ds)
    | ds => (0, ds)
  ds.head?.any (fun d => '1' ≤ d && d ≤ '9')
    && mostDigits < sign + (ds.takeWhile Char.isDigit).length

def lenientInt (s : String) : Except IntegerFault Int :=
  let trimmed := trimBoth isWhiteSpace s.toList
  if beginsTooLong trimmed then .error .tooLong
  else
    match bareInteger? trimmed with
    | some cs =>
      if mostDigits < cs.length then .error .malformed
      else (intOfDigits? cs).elim (.error .malformed) .ok
    | none => .error .malformed

end MarkdownLint
