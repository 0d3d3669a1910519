/-!
# Surrogates

The code points from U+D800 to U+DFFF, the surrogates, are no characters, yet an escape can name
one.  A text holds it as a character of plane 14 where Unicode assigns none, at a fixed distance, so
a surrogate stays apart from every character (`codeOf_charOfCode`).
-/

namespace MarkdownLint

/-- How far a surrogate is from the character that is held for it. -/
def surrogateDistance : Nat := 0xd3800

def isSurrogate (code : Nat) : Bool :=
  0xd800 ≤ code && code < 0xe000

/-- The character that a text holds for a code point. -/
def charOfCode (code : Nat) : Char :=
  Char.ofNat (if isSurrogate code then code + surrogateDistance else code)

/-- The code point that a character of a text is held for. -/
def codeOf (c : Char) : Nat :=
  let n := c.toNat
  if isSurrogate (n - surrogateDistance) then n - surrogateDistance else n

theorem codeOf_charOfCode {code : Nat} (h : isSurrogate code = true) :
    codeOf (charOfCode code) = code := by
  have bounds : 0xd800 ≤ code ∧ code < 0xe000 := by simpa [isSurrogate] using h
  have valid : Nat.isValidChar (code + surrogateDistance) := by
    simp only [Nat.isValidChar, surrogateDistance]
    omega
  have kept : (charOfCode code).toNat = code + surrogateDistance := by
    rw [charOfCode, if_pos h, Char.ofNat, dif_pos valid]
    exact UInt32.toNat_ofNatLT
  simp [codeOf, kept, h]

end MarkdownLint
