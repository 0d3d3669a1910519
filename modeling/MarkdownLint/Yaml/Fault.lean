import MarkdownLint.Number.Length
import MarkdownLint.Text.Quoted
import MarkdownLint.Timestamp

/-!
# Faults of YAML documents

Why a document gives no value.  Nearly always it is `unreadable`.  The other causes arise where a
scalar has the form its tag asks for, or no form was asked for, and still denotes nothing: an
impossible date, a number without digits, a code point past the last one.  Others are a version
that is not known, keys that cannot be looked up or come twice, and an integer that would have to be
shown and is too long for that.
-/

namespace MarkdownLint.Yaml

-- Powers here are the core library's, whatever else the importing module sees.
attribute [local instance (high)] instPowNat

inductive Fault
  | unreadable
  | codePoint (code : Int)
  | calendar (fault : CalendarFault)
  | integer (base : Nat) (text : String)
  | tooManyDigits (count : Nat)
  | number (text : String)
  | noNumber
  | exponents
  | truthValue (text : String)
  | unhashable (kind : String)
  | repeatedKey
  | version (major minor : Nat)
  | integerTooLong
  deriving DecidableEq

namespace Fault

def fitsWord (code : Int) : Bool :=
  -(2 ^ (31 : Nat)) ≤ code && code < 2 ^ (31 : Nat)

def kind : Fault → String
  | unreadable => "YAMLError"
  | codePoint code => if fitsWord code then "ValueError" else "OverflowError"
  | calendar .range => "OverflowError"
  | calendar _ => "ValueError"
  | integer _ _ => "ValueError"
  | tooManyDigits _ => "ValueError"
  | number _ => "ValueError"
  | noNumber => "IndexError"
  | exponents => "ValueError"
  | truthValue _ => "KeyError"
  | unhashable _ => "TypeError"
  | repeatedKey => "AssertionError"
  | version _ _ => "AssertionError"
  | integerTooLong => "ValueError"

def message : Fault → String
  | unreadable => ""
  | codePoint code =>
    if fitsWord code then "chr() arg not in range(0x110000)"
    else "Python int too large to convert to C int"
  | calendar fault => fault.message
  | integer base text =>
    "invalid literal for int() with base " ++ toString base ++ ": "
      ++ String.ofList ((quoted text).toList.take 200)
  | tooManyDigits count => tooManyDigitsText (": value has " ++ toString count ++ " digits")
  | number text => "could not convert string to float: " ++ quoted text
  | noNumber => "string index out of range"
  | exponents => "too many values to unpack (expected 2)"
  | truthValue text => quoted text
  | unhashable kind => "unhashable type: " ++ quoted kind
  | repeatedKey => ""
  | version major minor =>
    "version minor part can only be 2 or 1, got (" ++ toString major ++ ", " ++ toString minor
      ++ ")"
  | integerTooLong => tooManyDigitsText ""

end Fault

end MarkdownLint.Yaml
