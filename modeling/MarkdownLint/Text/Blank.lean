/-!
# Blanks and line boundaries

Two classes of characters.  Blanks are trimmed from the ends of a text; line boundaries end its
first line.  Every line boundary is a blank (`isBlank_of_isLineBoundary`), so the first line of a
trimmed text is empty only if the text is.
-/

namespace MarkdownLint

/-- White space and the four information separators. -/
def isBlank (c : Char) : Bool :=
  let n := c.toNat
  (9 ≤ n && n ≤ 13) || (0x1c ≤ n && n ≤ 0x20) || n == 0x85 || n == 0xa0 || n == 0x1680
    || (0x2000 ≤ n && n ≤ 0x200a) || n == 0x2028 || n == 0x2029 || n == 0x202f || n == 0x205f
    || n == 0x3000

/-- The line feed, the vertical tab, the form feed, the carriage return, the separators of files,
groups and records, the next line control, and the separators of lines and paragraphs. -/
def isLineBoundary (c : Char) : Bool :=
  let n := c.toNat
  (10 ≤ n && n ≤ 13) || (0x1c ≤ n && n ≤ 0x1e) || n == 0x85 || n == 0x2028 || n == 0x2029

theorem isBlank_of_isLineBoundary {c : Char} (h : isLineBoundary c = true) :
    isBlank c = true := by
  simp only [isLineBoundary, isBlank, Bool.or_eq_true, Bool.and_eq_true, decide_eq_true_eq,
    beq_iff_eq] at h ⊢
  omega

/-- White space in the sense of Unicode: a blank that is no information separator. -/
def isWhiteSpace (c : Char) : Bool :=
  isBlank c && !(0x1c ≤ c.toNat && c.toNat ≤ 0x1f)

/-- What is left of a text once the characters of a class are taken off both ends. -/
def trimBoth (p : Char → Bool) (cs : List Char) : List Char :=
  ((cs.dropWhile p).reverse.dropWhile p).reverse

/-- The characters of a text before its first line boundary. -/
def firstLine (cs : List Char) : List Char :=
  cs.takeWhile (!isLineBoundary ·)

end MarkdownLint
