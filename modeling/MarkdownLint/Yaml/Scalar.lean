import MarkdownLint.Number.Lenient
import MarkdownLint.Text.Base64
import MarkdownLint.Text.Digit
import MarkdownLint.Text.Lowercase
import MarkdownLint.Value
import MarkdownLint.Yaml.Tag
import MarkdownLint.Yaml.Token.Scalar

/-!
# Values of scalars

`Tag.ofPlain` tells from the text of a plain scalar what it denotes, and `Tag.read` reads a text as
what a tag says.  The two are apart, since a tag may be given to a text of another form.

Version 1.1 has more words for truth values, octal numbers behind a zero, and numbers to the base 60
with colons between their places.
-/

namespace MarkdownLint.Yaml

-- Powers here are the core library's, whatever else the importing module sees.
attribute [local instance (high)] instPowNat

/-! ### Forms -/

def splitSign : List Char → Bool × List Char
  | '-' :: cs => (true, cs)
  | '+' :: cs => (false, cs)
  | cs => (false, cs)

def allOf (p : Char → Bool) (cs : List Char) : Bool :=
  !cs.isEmpty && cs.all p

def isDigitOrUnderscore (c : Char) : Bool :=
  c.isDigit || c = '_'

/-- A text without a line feed at its very end, which does not count where its form is judged. -/
def withoutFinalFeed (cs : List Char) : List Char :=
  if cs.getLast? = some '\n' then cs.dropLast else cs

/-- The parts of a text between the places of a character. -/
def partsAt (separator : Char) : List Char → List (List Char)
  | [] => [[]]
  | c :: cs =>
    if c = separator then [] :: partsAt separator cs
    else
      match partsAt separator cs with
      | part :: parts => (c :: part) :: parts
      | [] => [[c]]

/-- One or two digits of a number below 60. -/
def isSixtieth : List Char → Bool
  | [d] => d.isDigit
  | [t, d] => '0' ≤ t && t ≤ '5' && d.isDigit
  | _ => false

/-- A number of at least two places to the base 60, of which the first meets a condition. -/
def isSexagesimal (first : List Char → Bool) (cs : List Char) : Bool :=
  match partsAt ':' cs with
  | part :: more => first part && !more.isEmpty && more.all isSixtieth
  | [] => false

/-- Digits behind the letter of an exponent and perhaps a sign. -/
def isExponent (signRequired : Bool) : List Char → Bool
  | e :: cs =>
    (e = 'e' || e = 'E') && allOf Char.isDigit (splitSign cs).2
      && (!signRequired || (splitSign cs).2.length < cs.length)
  | [] => false

/-- Decimal digits with a point or an exponent, or a name for a number that is not finite.  Without
digits before the point the exponent needs a sign, and in version 1.1 the number has none. -/
def isFloatForm (version : Version) (cs : List Char) : Bool :=
  let unsigned := (splitSign cs).2
  let isUnsigned := unsigned.length = cs.length
  let startsWithDigit (ds : List Char) := ds.head?.any Char.isDigit && ds.all isDigitOrUnderscore
  let whole := unsigned.takeWhile isDigitOrUnderscore
  match unsigned.dropWhile isDigitOrUnderscore with
  | '.' :: fraction =>
    let places := fraction.takeWhile isDigitOrUnderscore
    let exponent := fraction.dropWhile isDigitOrUnderscore
    (startsWithDigit whole && (exponent.isEmpty || isExponent false exponent))
      || (whole.isEmpty && !places.isEmpty && (isUnsigned || version = .v1_2)
        && (exponent.isEmpty || isExponent true exponent))
      || (whole.isEmpty && ["inf", "Inf", "INF"].contains (String.ofList fraction))
      || (isUnsigned && whole.isEmpty && ["nan", "NaN", "NAN"].contains (String.ofList fraction))
  | behind =>
    (startsWithDigit whole && isExponent false behind)
      || (version = .v1_1 && behind.contains '.'
        && isSexagesimal startsWithDigit (unsigned.takeWhile (· ≠ '.'))
        && ((unsigned.dropWhile (· ≠ '.')).drop 1).all isDigitOrUnderscore)

/-- Digits with underscores, in binary, octal and hexadecimal behind a sign for the base. -/
def isIntegerForm (version : Version) (cs : List Char) : Bool :=
  let startsLow (ds : List Char) := ds.head?.any fun d => '1' ≤ d && d ≤ '9'
  let isOctal (d : Char) := ('0' ≤ d && d ≤ '7') || d = '_'
  let isDecimal (ds : List Char) := startsLow ds && ds.all isDigitOrUnderscore
  cs.head?.any (fun c => c.isDigit || c = '-' || c = '+') &&
    match (splitSign cs).2 with
    | '0' :: 'b' :: ds => allOf (fun d => d = '0' || d = '1' || d = '_') ds
    | '0' :: 'o' :: ds => version = .v1_2 && allOf isOctal ds
    | '0' :: 'x' :: ds => allOf (fun d => isHexDigit d || d = '_') ds
    | ds =>
      match version with
      | .v1_2 => allOf isDigitOrUnderscore ds
      | .v1_1 => allOf isOctal ds || isDecimal ds || isSexagesimal isDecimal ds

def isTruthForm (version : Version) (text : String) : Bool :=
  ["true", "True", "TRUE", "false", "False", "FALSE"].contains text
    || (version = .v1_1
      && ["y", "Y", "yes", "Yes", "YES", "n", "N", "no", "No", "NO", "on", "On", "ON", "off", "Off",
        "OFF"].contains text)

/-! ### Timestamps -/

/-- A time zone as it is written: the sign, unless it is universal time, and the digits of hours
and minutes. -/
structure ZoneText where
  written : List Char
  negative : Bool := false
  hours : List Char := []
  minutes : List Char := []

/-- The parts of a timestamp as they are written. -/
structure TimestampText where
  year : List Char
  month : List Char
  day : List Char
  time : Option (List Char × List Char × List Char) := none
  fraction : List Char := []
  zone : Option ZoneText := none

namespace TimestampText

/-- From `least` to `most` digits, and what is behind them. -/
def digits (least most : Nat) (cs : List Char) : Option (List Char × List Char) :=
  let ds := (cs.take most).takeWhile Char.isDigit
  if least ≤ ds.length then some (ds, cs.drop ds.length) else none

def sign (c : Char) : List Char → Option (List Char)
  | d :: cs => if d = c then some cs else none
  | [] => none

def readZone (written : List Char) : Option ZoneText :=
  match written with
  | ['Z'] => some { written }
  | c :: cs => do
    if c ≠ '+' ∧ c ≠ '-' then none
    let (hours, cs) ← digits 1 2 cs
    match cs with
    | [] => return ⟨written, c = '-', hours, []⟩
    | _ =>
      let (minutes, cs) ← digits 2 2 (← sign ':' cs)
      if cs = [] then return ⟨written, c = '-', hours, minutes⟩ else none
  | [] => none

def readTime (t : TimestampText) (cs : List Char) : Option TimestampText := do
  let (hour, cs) ← digits 1 2 cs
  let (minute, cs) ← digits 2 2 (← sign ':' cs)
  let (second, cs) ← digits 2 2 (← sign ':' cs)
  let (fraction, cs) := match cs with
    | '.' :: ds => (ds.takeWhile Char.isDigit, ds.dropWhile Char.isDigit)
    | _ => ([], cs)
  let t := { t with time := some (hour, minute, second), fraction }
  if cs = [] then return t
  else return { t with zone := some (← readZone (cs.dropWhile isSpaceOrTab)) }

def ofText? (cs : List Char) : Option TimestampText := do
  let (year, cs) ← digits 4 4 cs
  let (month, cs) ← digits 1 2 (← sign '-' cs)
  let (day, cs) ← digits 1 2 (← sign '-' cs)
  let t : TimestampText := { year, month, day }
  match cs with
  | [] => return t
  | c :: cs =>
    if c = 'T' ∨ c = 't' then t.readTime cs
    else if isSpaceOrTab c then t.readTime (cs.dropWhile isSpaceOrTab)
    else none

/-- Whether a plain scalar of this form is a timestamp: a date alone needs two digits for month and
day. -/
def isPlainForm (t : TimestampText) : Bool :=
  t.time.isSome || (t.month.length = 2 && t.day.length = 2)

/-- The fraction in millionths, rounded at the seventh digit. -/
def micros (t : TimestampText) : Nat :=
  let rounded := natOfDigits (t.fraction.take 6) * 10 ^ (6 - t.fraction.length)
  if (t.fraction[6]?).any fun c => '5' ≤ c then rounded + 1 else rounded

def zoneValue (z : ZoneText) : Except CalendarFault Zone :=
  let minutes : Int := natOfDigits z.hours * 60 + natOfDigits z.minutes
  Zone.ofMinutes (if z.negative then -minutes else minutes) (String.ofList z.written)

/-- The date or the moment that a timestamp stands for.  A fraction may be rounded up to the next
second. -/
def value (t : TimestampText) : Except CalendarFault Value := do
  let year := natOfDigits t.year
  let month := natOfDigits t.month
  let day := natOfDigits t.day
  match t.time with
  | none => return .date (← Date.ofNumbers year month day)
  | some (hour, minute, second) =>
    let zone ← t.zone.mapM zoneValue
    let micros := t.micros
    let carries := 999999 < micros
    let moment ← Moment.ofNumbers year month day (natOfDigits hour) (natOfDigits minute)
      (natOfDigits second) (if carries then 0 else micros)
    let zoned := { moment with zone }
    return .moment (← if carries then zoned.addSeconds 1 else pure zoned)

end TimestampText

/-! ### What plain scalars denote -/

namespace Tag

/-- The tag of a plain scalar.  An exclamation mark, an ampersand or an asterisk alone has none. -/
def ofPlain (version : Version) (text : String) : Tag :=
  let cs := withoutFinalFeed text.toList
  let bare := String.ofList cs
  if text = "" then null
  else if isTruthForm version bare then truth
  else if isFloatForm version cs then float
  else if isIntegerForm version cs then integer
  else if bare = "<<" then merge
  else if ["~", "null", "Null", "NULL"].contains bare then null
  else if (TimestampText.ofText? cs).any (·.isPlainForm) then timestamp
  else if bare = "=" then defaultValue
  else if ["!", "&", "*"].contains bare then unknown
  else Tag.text

end Tag

/-! ### Reading -/

def digitValue? (base : Nat) (c : Char) : Option Nat :=
  if isHexDigit c ∧ hexDigitValue c < base then some (hexDigitValue c) else none

/-- The letter that may stand behind a zero to announce a base. -/
def baseLetter? : Nat → Option Char
  | 2 => some 'b'
  | 8 => some 'o'
  | 16 => some 'x'
  | _ => none

def dropBaseLetter (base : Nat) : List Char → List Char
  | '0' :: c :: cs => if baseLetter? base = some c.toLower then cs else '0' :: c :: cs
  | cs => cs

/-- Reads digits of a base, with white space around them and perhaps a sign. -/
def integerInBase (base : Nat) (cs : List Char) : Except Fault Int :=
  let (negative, unsigned) := splitSign ((withAsciiDigits cs).dropWhile isWhiteSpace)
  let digits := dropBaseLetter base unsigned
  let ds := digits.takeWhile fun c => (digitValue? base c).isSome
  if base = 10 ∧ mostDigits < ds.length then .error (.tooManyDigits ds.length)
  else if ds = [] ∨ !(digits.drop ds.length).all isWhiteSpace then
    .error (.integer base (String.ofList cs))
  else
    let n := ds.foldl (fun n d => n * base + hexDigitValue d) 0
    .ok (if negative then -n else n)

/-- The number whose places to the base 60 are given, the last place last. -/
def ofSixtieths (places : List Int) : Int :=
  places.foldl (fun n d => n * 60 + d) 0

/-- Reads the digits of an integer behind its sign: in base 10 unless they announce another. -/
def readMagnitude (version : Version) (cs : List Char) : Except Fault Int :=
  match cs with
  | '0' :: 'b' :: ds => integerInBase 2 ds
  | '0' :: 'x' :: ds => integerInBase 16 ds
  | '0' :: 'o' :: ds => integerInBase 8 ds
  | _ =>
    match version, cs with
    | .v1_1, [] => .error .noNumber
    | .v1_1, '0' :: _ => integerInBase 8 cs
    | .v1_1, _ => ((partsAt ':' cs).mapM (integerInBase 10)).map ofSixtieths
    | .v1_2, _ => integerInBase 10 cs

/-- Reads an integer.  Underscores do not count, and the sign for the base may follow a sign. -/
def readInteger (version : Version) (text : String) : Except Fault Value :=
  match text.toList.filter (· ≠ '_') with
  | [] => .error .noNumber
  | cs =>
    let (negative, unsigned) := splitSign cs
    (readMagnitude version unsigned).map fun n => .int (if negative then -n else n)

/-- The number that decimal digits denote, with a point among them and an exponent behind them if
there are such. -/
def decimal? (negative : Bool) (cs : List Char) : Option Double := do
  let whole := cs.takeWhile Char.isDigit
  let behind := cs.dropWhile Char.isDigit
  let (places, behind) := match behind with
    | '.' :: ds => (ds.takeWhile Char.isDigit, ds.dropWhile Char.isDigit)
    | _ => ([], behind)
  if whole ++ places = [] then none
  let exponent : Int ← match behind with
    | [] => some 0
    | 'e' :: ds =>
      let (down, ds) := splitSign ds
      let size := natOfDigits ds
      if allOf Char.isDigit ds then some (if down then -size else size) else none
    | _ => none
  return .ofDecimal negative (natOfDigits (whole ++ places)) (exponent - places.length)

/-- Reads a number in lower case.  One that is no number gets the serial number. -/
def readDouble (serial : Nat) (cs : List Char) : Except Fault Double :=
  let (negative, unsigned) := splitSign (trimBoth isWhiteSpace (withAsciiDigits cs))
  match String.ofList unsigned with
  | "inf" => .ok (.infinite negative)
  | "infinity" => .ok (.infinite negative)
  | "nan" => .ok (.nan serial)
  | _ =>
    match decimal? negative unsigned with
    | some x => .ok x
    | none => .error (.number (String.ofList cs))

/-- The sum of the places of a number to the base 60, the last place first and worth `unit`. -/
def sumOfSixtieths (serial : Nat) : Nat → Double → List Double → Double
  | _, sum, [] => sum
  | unit, sum, d :: ds => sumOfSixtieths serial (unit * 60) (sum.add serial (d.scale unit)) ds

/-- Reads the number behind a sign.  In version 1.1 there may be one exponent only. -/
def readUnsignedDouble (version : Version) (serial : Nat) (cs : List Char) : Except Fault Double :=
  if version = .v1_2 then readDouble serial cs
  else if cs.contains ':' then do
    let places ← (partsAt ':' cs).mapM (readDouble serial)
    return sumOfSixtieths serial 1 (.ofRatio false 0 1) places.reverse
  else if 1 < cs.count 'e' then .error .exponents
  else readDouble serial cs

/-- Reads a number.  The name for what is no number denotes the same value everywhere, while every
other reading that gives none gives a new one, under the serial number. -/
def readFloat (version : Version) (serial : Nat) (text : String) : Except Fault Value :=
  match (lowercase (String.ofList (text.toList.filter (· ≠ '_')))).toList with
  | [] => .error .noNumber
  | cs =>
    let (negative, unsigned) := splitSign cs
    match String.ofList unsigned with
    | ".inf" => .ok (.float (.infinite negative))
    | ".nan" => .ok (.float (.nan 0))
    | _ => (readUnsignedDouble version serial unsigned).map fun x =>
      .float (if negative then x.negate else x)

def readTruth (text : String) : Except Fault Value :=
  let lower := lowercase text
  if ["true", "yes", "y", "on"].contains lower then .ok (.bool true)
  else if ["false", "no", "n", "off"].contains lower then .ok (.bool false)
  else .error (.truthValue lower)

def readTimestamp (text : String) : Except Fault Value :=
  match TimestampText.ofText? (withoutFinalFeed text.toList) with
  | none => .error .unreadable
  | some t => t.value.mapError .calendar

def readBinary (text : String) : Except Fault Value :=
  if text.toList.all (·.toNat < 0x80) then
    match Base64.decode text.toList with
    | some bytes => .ok (.bytes bytes)
    | none => .error .unreadable
  else .error .unreadable

namespace Tag

/-- Reads a text as what a tag says. -/
def read (version : Version) (serial : Nat) (tag : Tag) (text : String) : Except Fault Value :=
  match tag with
  | .text => .ok (.text text)
  | integer => readInteger version text
  | float => readFloat version serial text
  | truth => readTruth text
  | null => .ok .null
  | timestamp => readTimestamp text
  | binary => readBinary text
  | _ => .error .unreadable

end Tag

end MarkdownLint.Yaml
