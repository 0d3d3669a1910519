/-!
# Lengths of integers

An integer of any size may be reckoned with, but only one of at most `mostDigits` decimal digits is
read from decimal digits or written in them.
-/

namespace MarkdownLint

-- Powers here are the core library's, whatever else the importing module sees.
attribute [local instance (high)] instPowNat

def mostDigits : Nat := 4300

/-- Whether an integer is short enough to be written. -/
def isWritable (n : Int) : Bool :=
  n.natAbs < 10 ^ mostDigits

/-- An error whose message shows some integers, or the one that is met instead if any of them is too
long to be written. -/
def showing {ε : Type} (integerTooLong : ε) (integers : List Int) (e : ε) : ε :=
  if integers.all isWritable then e else integerTooLong

/-- What is said of an integer that is too long, with what is known of it. -/
def tooManyDigitsText (detail : String) : String :=
  "Exceeds the limit (" ++ toString mostDigits ++ " digits) for integer string conversion" ++ detail
    ++ "; use sys.set_int_max_str_digits() to increase the limit"

end MarkdownLint
