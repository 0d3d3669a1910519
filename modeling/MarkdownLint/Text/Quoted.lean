import MarkdownLint.Text.Printable
import MarkdownLint.Text.Surrogate

/-!
# Quoted texts

A text in a message stands between single quotes, or between double quotes if it holds a single
one and no double one.  The quote in use and the backslash are written with a backslash before
them, line feed, carriage return and tab as `\n`, `\r` and `\t`, and any other character that is
not printable by its code point in hexadecimal.
-/

namespace MarkdownLint

/-- The last `width` hexadecimal digits of `n`, in lower case. -/
def hexDigits : Nat → Nat → List Char
  | 0, _ => []
  | width + 1, n => hexDigits width (n / 16) ++ [Nat.digitChar (n % 16)]

def quoteFor (cs : List Char) : Char :=
  if cs.contains '\'' && !cs.contains '"' then '"' else '\''

/-- The code point, in the shortest of the forms with two, four and eight digits that holds it. -/
def escapeCode (n : Nat) : List Char :=
  if n < 0x100 then '\\' :: 'x' :: hexDigits 2 n
  else if n < 0x10000 then '\\' :: 'u' :: hexDigits 4 n
  else '\\' :: 'U' :: hexDigits 8 n

def escapeChar (quote c : Char) : List Char :=
  if c = quote ∨ c = '\\' then ['\\', c]
  else if c = '\n' then ['\\', 'n']
  else if c = '\r' then ['\\', 'r']
  else if c = '\t' then ['\\', 't']
  else if isPrintable c then [c]
  else escapeCode (codeOf c)

def quoteChars (cs : List Char) : List Char :=
  let quote := quoteFor cs
  quote :: cs.flatMap (escapeChar quote) ++ [quote]

def quoted (s : String) : String :=
  String.ofList (quoteChars s.toList)

/-- Bytes are quoted as the characters of their values, with all but ASCII in hexadecimal, behind
a `b`. -/
def quotedBytes (bytes : List UInt8) : String :=
  let cs := bytes.map fun b => Char.ofNat b.toNat
  let quote := quoteFor cs
  let escape (c : Char) := if c.toNat < 0x7f then escapeChar quote c else escapeCode c.toNat
  String.ofList ('b' :: quote :: cs.flatMap escape ++ [quote])

end MarkdownLint
