import MarkdownLint.Rule.Registry
import Mathlib.Data.List.DropRight
import Mathlib.Data.List.TakeWhile

/-!
# Descriptions

The description of a rule that is declared without one is the first line of its documentation, with
the blanks at both ends of the documentation taken off.  What is left of it begins and ends with no
blank (`stripped_trimBoth`), and as every line boundary is a blank, it has a first line, which is
not empty, unless it is empty itself (`firstLineOf_firstLine`).
-/

namespace MarkdownLint

/-- The characters at which a line ends. -/
def lineBoundaries : List Char :=
  ['\n', '\r', '\x0b', '\x0c', '\x1c', '\x1d', '\x1e', '\u0085', '\u2028', '\u2029']

/-- The lines of a text, without what ends them.  A carriage return and the line feed after it end
one line, and behind the last line end there is no further line. -/
def linesOf : List Char → List (List Char)
  | [] => []
  | '\r' :: '\n' :: cs => [] :: linesOf cs
  | c :: cs =>
    if isLineBoundary c then [] :: linesOf cs
    else
      match linesOf cs with
      | [] => [[c]]
      | line :: lines => (c :: line) :: lines

/-- What is left of a text without the characters of a class at both ends. -/
structure Stripped (p : Char → Bool) (cs rest : List Char) : Prop where
  split : ∃ before after, cs = before ++ rest ++ after ∧ (∀ c ∈ before, p c = true)
    ∧ ∀ c ∈ after, p c = true
  head : ∀ c ∈ rest.head?, p c = false
  last : ∀ c ∈ rest.getLast?, p c = false

/-- A line is the first one of a text: not empty, with no blank in front, and as far as the text
goes without a line boundary. -/
structure FirstLineOf (cs line : List Char) : Prop where
  lines_eq : ∃ lines, linesOf cs = line :: lines
  head : ∃ c ∈ line.head?, isBlank c = false
  notMem : ∀ c ∈ line, c ∉ lineBoundaries
  begins : line <+: cs
  longest : ∀ other, other <+: cs → (∀ c ∈ other, c ∉ lineBoundaries) → other <+: line

section Stripping

variable (p : Char → Bool)

theorem trimBoth_eq_rdropWhile (cs : List Char) :
    trimBoth p cs = (cs.dropWhile p).rdropWhile p :=
  rfl

theorem trimBoth_eq_nil_iff {cs : List Char} : trimBoth p cs = [] ↔ ∀ c ∈ cs, p c = true := by
  rw [trimBoth_eq_rdropWhile, List.rdropWhile_eq_nil_iff]
  constructor
  · intro h c hc
    rw [← List.takeWhile_append_dropWhile (p := p) (l := cs)] at hc
    rcases List.mem_append.1 hc with hc | hc
    · exact List.mem_takeWhile_imp hc
    · exact h c hc
  · intro h c hc
    exact h c ((List.dropWhile_sublist p).subset hc)

theorem stripped_trimBoth (cs : List Char) : Stripped p cs (trimBoth p cs) := by
  rw [trimBoth_eq_rdropWhile]
  have hsplit : (cs.dropWhile p).rdropWhile p ++ (cs.dropWhile p).rtakeWhile p = cs.dropWhile p :=
    List.rdropWhile_append_rtakeWhile
  refine ⟨⟨cs.takeWhile p, (cs.dropWhile p).rtakeWhile p, ?_, fun c hc => ?_, fun c hc => ?_⟩,
    fun c hc => ?_, fun c hc => ?_⟩
  · rw [List.append_assoc, hsplit, List.takeWhile_append_dropWhile]
  · exact List.mem_takeWhile_imp hc
  · exact List.mem_rtakeWhile_imp hc
  · -- Taking characters off the end leaves the head, unless nothing is left.
    have hhead : (cs.dropWhile p).head? = some c := by
      rw [← hsplit, List.head?_append, Option.mem_def.1 hc, Option.some_or]
    have hnot := List.head?_dropWhile_not p cs
    rw [hhead] at hnot
    exact hnot
  · obtain ⟨hne, rfl⟩ := List.mem_getLast?_eq_getLast hc
    simpa using List.rdropWhile_last_not p _ hne

end Stripping

section Lines

variable {cs : List Char}

theorem isLineBoundary_iff {c : Char} : isLineBoundary c = true ↔ c ∈ lineBoundaries := by
  simp only [isLineBoundary, lineBoundaries, Bool.or_eq_true, Bool.and_eq_true, decide_eq_true_eq,
    beq_iff_eq, List.mem_cons, List.not_mem_nil, or_false, ← Char.toNat_inj]
  simp only [Char.reduceToNat]
  omega

theorem isLineBoundary_eq_false_iff {c : Char} :
    isLineBoundary c = false ↔ c ∉ lineBoundaries := by
  rw [← isLineBoundary_iff, Bool.not_eq_true]

/-- Only the empty text has no lines. -/
theorem exists_linesOf : cs ≠ [] → ∃ lines, linesOf cs = firstLine cs :: lines := by
  fun_induction linesOf cs with
  | case1 => exact fun h => absurd rfl h
  | case2 cs ih => exact fun _ => ⟨linesOf cs, rfl⟩
  | case3 c cs _ hc ih => exact fun _ => ⟨linesOf cs, by simp [firstLine, hc]⟩
  | case4 c cs _ hc hlines ih =>
    intro _
    have hcs : cs = [] := by
      by_contra hne
      obtain ⟨lines, h⟩ := ih hne
      simp [hlines] at h
    exact ⟨[], by simp [firstLine, hc, hcs]⟩
  | case5 c cs _ hc line lines hlines ih =>
    intro _
    have hcs : cs ≠ [] := by
      rintro rfl
      simp [linesOf] at hlines
    obtain ⟨lines', h⟩ := ih hcs
    obtain ⟨rfl, rfl⟩ := List.cons.inj (hlines.symm.trans h)
    exact ⟨lines, by simp [firstLine, hc]⟩

/-- A text without a blank in front of it has a first line, as blanks are where lines end. -/
theorem firstLineOf_firstLine (hne : cs ≠ []) (hhead : ∀ c ∈ cs.head?, isBlank c = false) :
    FirstLineOf cs (firstLine cs) where
  lines_eq := exists_linesOf hne
  head := by
    obtain ⟨c, cs, rfl⟩ := List.exists_cons_of_ne_nil hne
    have hblank : isBlank c = false := hhead c rfl
    have hc : isLineBoundary c = false := by
      by_contra hboundary
      rw [Bool.not_eq_false] at hboundary
      rw [isBlank_of_isLineBoundary hboundary] at hblank
      cases hblank
    exact ⟨c, by simp [firstLine, hc], hblank⟩
  notMem c hc := isLineBoundary_eq_false_iff.1 (by simpa using List.mem_takeWhile_imp hc)
  begins := List.takeWhile_prefix _
  longest other hother hnot := by
    obtain ⟨after, rfl⟩ := hother
    have hother : ∀ c ∈ other, (!isLineBoundary c) = true := fun c hc => by
      simpa using isLineBoundary_eq_false_iff.2 (hnot c hc)
    rw [firstLine, List.takeWhile_append_of_pos hother]
    exact List.prefix_append _ _

end Lines

section Describing

variable {documentation : Option String} {description : String}

theorem describe_of_given (h : description ≠ "") :
    Rule.describe documentation description = description := by
  rw [Rule.describe, if_pos h]

theorem toList_describe :
    (Rule.describe documentation "").toList
      = firstLine (trimBoth isBlank (documentation.getD "").toList) := by
  simp [Rule.describe]

/-- The first line of what is left of a text is only empty if nothing is left. -/
theorem firstLine_eq_nil_iff {cs rest : List Char} (h : Stripped isBlank cs rest) :
    firstLine rest = [] ↔ rest = [] := by
  constructor
  · intro hnil
    by_contra hne
    obtain ⟨c, hc, -⟩ := (firstLineOf_firstLine hne h.head).head
    simp [hnil] at hc
  · intro hnil
    rw [hnil]
    rfl

theorem Declaration.description_build (d : Declaration) (fresh : Nat) :
    (d.build fresh).description = Rule.describe d.documentation d.description := by
  unfold build
  cases d.readOption <;> rfl

end Describing

/-- A rule keeps the description it is declared with.  Without one it is described by the first line
of what is left of its documentation without the blanks at both ends, which is there unless nothing
is left; and nothing is left, and its description empty, just if it has no documentation or one of
blanks alone. -/
theorem Declaration.build_description (d : Declaration) (fresh : Nat) :
    let description := (d.build fresh).description
    let text := (d.documentation.getD "").toList
    let rest := trimBoth isBlank text
    (d.description ≠ "" → description = d.description)
    ∧ (d.description = "" →
      Stripped isBlank text rest
      ∧ (description = "" ↔ rest = [])
      ∧ (description = "" ↔ ∀ s, d.documentation = some s → ∀ c ∈ s.toList, isBlank c = true)
      ∧ (rest ≠ [] → FirstLineOf rest description.toList)) := by
  intro description text rest
  have hdescribe : description = Rule.describe d.documentation d.description :=
    d.description_build fresh
  refine ⟨fun hgiven => ?_, fun hnone => ?_⟩
  · rw [hdescribe, describe_of_given hgiven]
  · have hstripped : Stripped isBlank text rest := stripped_trimBoth isBlank text
    have hline : description.toList = firstLine rest := by
      rw [hdescribe, hnone, toList_describe]
    have hempty : description = "" ↔ rest = [] := by
      rw [← String.toList_eq_nil_iff, hline, firstLine_eq_nil_iff hstripped]
    refine ⟨hstripped, hempty, ?_, fun hne => ?_⟩
    · rw [hempty, trimBoth_eq_nil_iff]
      rcases hdoc : d.documentation with _ | s
      · simp [text, hdoc]
      · simp [text, hdoc]
    · rw [hline]
      exact firstLineOf_firstLine hne hstripped.head

/-- A line feed in front, and a line separator behind the first line. -/
example :
    Rule.describe (some "\n  Warn of tabs.\u2028Spaces are fine.\n") "" = "Warn of tabs." := by
  decide +kernel

end MarkdownLint
