import MarkdownLint.Text.Quoted

/-!
# UTF-8

Bytes as text.  `decode` accepts exactly the shortest encodings of Unicode scalar values; on any
other input it names the stretch of bytes at fault and what is wrong with it.
-/

namespace MarkdownLint.Utf8

inductive Fault
  | invalidStart
  | invalidContinuation
  | unexpectedEnd
  deriving DecidableEq

def Fault.describe : Fault → String
  | .invalidStart => "invalid start byte"
  | .invalidContinuation => "invalid continuation byte"
  | .unexpectedEnd => "unexpected end of data"

/-- The bytes at fault: the offset of the first, its value, and how many there are. -/
structure DecodeError where
  fault : Fault
  offset : Nat
  first : UInt8
  count : Nat
  deriving DecidableEq

def DecodeError.message (e : DecodeError) : String :=
  let place :=
    if e.count = 1 then
      "byte 0x" ++ String.ofList (hexDigits 2 e.first.toNat) ++ " in position " ++ toString e.offset
    else
      "bytes in position " ++ toString e.offset ++ "-" ++ toString (e.offset + e.count - 1)
  "'utf-8' codec can't decode " ++ place ++ ": " ++ e.fault.describe

/-- What a leading byte announces: the number of bytes to follow, the bits it carries, and the
range of the next byte, which rules out overlong forms, surrogates and values past the last
scalar. -/
structure Lead where
  more : Nat
  bits : Nat
  low : Nat
  high : Nat

def lead? (b : Nat) : Option Lead :=
  if b < 0x80 then some ⟨0, b, 0, 0⟩
  else if b < 0xc2 then none
  else if b < 0xe0 then some ⟨1, b - 0xc0, 0x80, 0xbf⟩
  else if b = 0xe0 then some ⟨2, 0, 0xa0, 0xbf⟩
  else if b = 0xed then some ⟨2, 0xd, 0x80, 0x9f⟩
  else if b < 0xf0 then some ⟨2, b - 0xe0, 0x80, 0xbf⟩
  else if b = 0xf0 then some ⟨3, 0, 0x90, 0xbf⟩
  else if b < 0xf4 then some ⟨3, b - 0xf0, 0x80, 0xbf⟩
  else if b = 0xf4 then some ⟨3, 4, 0x80, 0x8f⟩
  else none

/-- The code point of a leading byte and the `more` bytes after it, of which `seen` were read, or
the fault and how many bytes it spans. -/
def codePoint (seen : Nat) : Nat → Lead → List UInt8 → Except (Fault × Nat) Nat
  | 0, l, _ => .ok l.bits
  | _ + 1, _, [] => .error (.unexpectedEnd, seen)
  | more + 1, l, b :: bs =>
    if l.low ≤ b.toNat ∧ b.toNat ≤ l.high then
      codePoint (seen + 1) more ⟨more, l.bits * 64 + (b.toNat - 0x80), 0x80, 0xbf⟩ bs
    else .error (.invalidContinuation, seen)

/-- Decodes from offset `o` on, after passing over `skip` bytes already accounted for. -/
def decodeFrom (o skip : Nat) : List UInt8 → Except DecodeError (List Char)
  | [] => .ok []
  | b :: bs =>
    match skip with
    | skip + 1 => decodeFrom (o + 1) skip bs
    | 0 =>
      match lead? b.toNat with
      | none => .error ⟨.invalidStart, o, b, 1⟩
      | some l =>
        match codePoint 1 l.more l bs with
        | .error (fault, count) => .error ⟨fault, o, b, count⟩
        | .ok n => (decodeFrom (o + 1) l.more bs).map (Char.ofNat n :: ·)

def decode (bytes : List UInt8) : Except DecodeError String :=
  (decodeFrom 0 0 bytes).map String.ofList

end MarkdownLint.Utf8

namespace MarkdownLint

/-- Every line end as a single line feed. -/
def unifyLineEnds : List Char → List Char
  | [] => []
  | '\r' :: '\n' :: cs => '\n' :: unifyLineEnds cs
  | c :: cs => (if c = '\r' then '\n' else c) :: unifyLineEnds cs

end MarkdownLint
