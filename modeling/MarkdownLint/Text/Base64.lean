/-!
# Base 64

Bytes written with four characters for three of them.  Reading is lenient: characters outside the
alphabet are passed over, and the text is over when a group of four is completed by padding.
-/

namespace MarkdownLint.Base64

def sextet? (c : Char) : Option Nat :=
  if 'A' ≤ c ∧ c ≤ 'Z' then some (c.toNat - 'A'.toNat)
  else if 'a' ≤ c ∧ c ≤ 'z' then some (c.toNat - 'a'.toNat + 26)
  else if '0' ≤ c ∧ c ≤ '9' then some (c.toNat - '0'.toNat + 52)
  else if c = '+' then some 62
  else if c = '/' then some 63
  else none

/-- Decodes the text behind `count` characters of a group and `pads` padding signs right before it,
where `left` holds the bits of the group's last character that make no whole byte yet. -/
def decodeFrom (count pads left : Nat) : List Char → Option (List UInt8)
  | [] => if count = 0 then some [] else none
  | c :: cs =>
    if c = '=' then
      if 2 ≤ count ∧ 4 ≤ count + pads + 1 then some []
      else decodeFrom count (if 2 ≤ count then pads + 1 else pads) left cs
    else
      match sextet? c with
      | none => decodeFrom count pads left cs
      | some bits =>
        match count with
        | 0 => decodeFrom 1 0 bits cs
        | 1 => (decodeFrom 2 0 (bits % 16) cs).map (UInt8.ofNat (left * 4 + bits / 16) :: ·)
        | 2 => (decodeFrom 3 0 (bits % 4) cs).map (UInt8.ofNat (left * 16 + bits / 4) :: ·)
        | _ => (decodeFrom 0 0 0 cs).map (UInt8.ofNat (left * 64 + bits) :: ·)

/-- The bytes a text stands for, unless its last group is incomplete. -/
def decode (cs : List Char) : Option (List UInt8) :=
  decodeFrom 0 0 0 cs

end MarkdownLint.Base64
