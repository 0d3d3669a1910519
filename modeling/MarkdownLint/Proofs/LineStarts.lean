import MarkdownLint.Location
import Mathlib.Tactic.Common

/-!
# The line starts of a text

The line starts of a text begin with 0, increase, and never pass its length (`ofText_inOrder`).
So each offset up to the length stands in exactly one line (`InLine.unique`), and it is the one
that the search finds (`countAtMost_spec`, `toPosition_eq`).  `toOffset` gives an offset just for
the line it stands in and for its distance from the start of that line (`toOffset_eq_ok_iff`).
-/

namespace MarkdownLint

theorem mapError_eq_ok_iff {ε ε' α : Type} {x : Except ε α} {f : ε → ε'} {a : α} :
    x.mapError f = .ok a ↔ x = .ok a := by
  cases x with
  | error e => simp [Except.mapError]
  | ok a => simp [Except.mapError]

theorem mapError_eq_error_iff {ε ε' α : Type} {x : Except ε α} {f : ε → ε'} {e' : ε'} :
    x.mapError f = .error e' ↔ ∃ e, x = .error e ∧ e' = f e := by
  cases x with
  | error e => simp [Except.mapError, eq_comm]
  | ok a => simp [Except.mapError]

theorem lineEnds_bounds (o : Nat) (cs : List Char) :
    ∀ e ∈ lineEnds o cs, o < e ∧ e ≤ o + cs.length := by
  fun_induction lineEnds o cs with
  | case1 o => simp
  | case2 o cs ih =>
    intro e he
    simp only [List.length_cons]
    rcases List.mem_cons.1 he with rfl | he
    · omega
    · have := ih e he
      omega
  | case3 o c cs _ _ ih =>
    intro e he
    simp only [List.length_cons]
    rcases List.mem_cons.1 he with rfl | he
    · omega
    · have := ih e he
      omega
  | case4 o c cs _ _ ih =>
    intro e he
    have := ih e he
    simp only [List.length_cons]
    omega

theorem lineEnds_increasing (o : Nat) (cs : List Char) : (lineEnds o cs).Pairwise (· < ·) := by
  fun_induction lineEnds o cs with
  | case1 o => exact .nil
  | case2 o cs ih => exact .cons (fun e he => (lineEnds_bounds _ cs e he).1) ih
  | case3 o c cs _ _ ih => exact .cons (fun e he => (lineEnds_bounds _ cs e he).1) ih
  | case4 o c cs _ _ ih => exact ih

theorem lineStarts_increasing (cs : List Char) : (lineStarts cs).Pairwise (· < ·) :=
  .cons (fun e he => (lineEnds_bounds 0 cs e he).1) (lineEnds_increasing 0 cs)

theorem lineStarts_le (cs : List Char) : ∀ s ∈ lineStarts cs, s ≤ cs.length := by
  intro s hs
  rcases List.mem_cons.1 hs with rfl | hs
  · exact Nat.zero_le _
  · have := lineEnds_bounds 0 cs s hs
    omega

/-- What lies before `lo` is at most `x` and what lies from `hi` on is greater; the search keeps
this, so the number it ends with parts the array at `x`. -/
theorem countAtMost_spec {a : Array Nat} {x : Nat}
    (ha : ∀ i j, i ≤ j → j < a.size → a.getD i 0 ≤ a.getD j 0) (lo hi : Nat) (hlh : lo ≤ hi)
    (hhi : hi ≤ a.size) (hlow : ∀ i < lo, a.getD i 0 ≤ x)
    (hhigh : ∀ i, hi ≤ i → i < a.size → x < a.getD i 0) :
    countAtMost a x lo hi ≤ a.size ∧ (∀ i < countAtMost a x lo hi, a.getD i 0 ≤ x)
      ∧ ∀ i, countAtMost a x lo hi ≤ i → i < a.size → x < a.getD i 0 := by
  fun_induction countAtMost a x lo hi with
  | case1 lo hi hlt middle hx ih =>
    refine ih (by omega) (by omega) hlow fun i hi' his => ?_
    exact Nat.lt_of_lt_of_le hx (ha middle i hi' his)
  | case2 lo hi hlt middle hx ih =>
    refine ih (by omega) hhi (fun i hi' => ?_) hhigh
    exact Nat.le_trans (ha i middle (by omega) (by omega)) (by omega)
  | case3 lo hi hge => exact ⟨by omega, hlow, fun i hi' => hhigh i (by omega)⟩

namespace Location

/-- The offset at which the line with index `i` begins. -/
def startAt (l : Location) (i : Nat) : Nat :=
  l.starts.getD i 0

/-- The line starts begin with 0, increase, and do not pass the length. -/
structure InOrder (l : Location) : Prop where
  one_le_lineCount : 1 ≤ l.lineCount
  startAt_zero : l.startAt 0 = 0
  startAt_lt : ∀ i j, i < j → j < l.lineCount → l.startAt i < l.startAt j
  startAt_le : ∀ i, i < l.lineCount → l.startAt i ≤ l.length

/-- The offset `o` stands in the line with index `i`: not before its start and, unless it is the
last line, before the start of the next one. -/
structure InLine (l : Location) (i o : Nat) : Prop where
  lt_lineCount : i < l.lineCount
  startAt_le : l.startAt i ≤ o
  lt_next : i + 1 < l.lineCount → o < l.startAt (i + 1)
  le_length : o ≤ l.length

theorem ofText_length (text : String) : (ofText text).length = text.length :=
  String.length_toList

theorem ofText_startAt {text : String} {i : Nat} (h : i < (ofText text).lineCount) :
    ∃ h' : i < (lineStarts text.toList).length,
      (ofText text).startAt i = (lineStarts text.toList)[i] := by
  have h' : i < (lineStarts text.toList).length := by simpa [lineCount, ofText] using h
  refine ⟨h', ?_⟩
  simp [startAt, ofText, h']

theorem ofText_inOrder (text : String) : (ofText text).InOrder where
  one_le_lineCount := by simp [lineCount, ofText, lineStarts]
  startAt_zero := rfl
  startAt_lt i j hij hj := by
    obtain ⟨hi', hi⟩ := ofText_startAt (Nat.lt_trans hij hj)
    obtain ⟨hj', hj⟩ := ofText_startAt hj
    rw [hi, hj]
    exact List.pairwise_iff_getElem.1 (lineStarts_increasing _) i j hi' hj' hij
  startAt_le i hi := by
    obtain ⟨hi', hi⟩ := ofText_startAt hi
    rw [hi]
    exact lineStarts_le _ _ (List.getElem_mem hi')

variable {l : Location}

theorem InOrder.startAt_mono (h : l.InOrder) {i j : Nat} (hij : i ≤ j) (hj : j < l.lineCount) :
    l.startAt i ≤ l.startAt j := by
  rcases Nat.lt_or_eq_of_le hij with hlt | rfl
  · exact Nat.le_of_lt (h.startAt_lt i j hlt hj)
  · exact Nat.le_refl _

/-- A later offset stands in no earlier line. -/
theorem InLine.mono (h : l.InOrder) {i j o p : Nat} (hi : l.InLine i o) (hj : l.InLine j p)
    (hop : o ≤ p) : i ≤ j := by
  by_contra hlt
  have hnext : l.startAt (j + 1) ≤ l.startAt i := h.startAt_mono (by omega) hi.lt_lineCount
  have hp : p < l.startAt (j + 1) := hj.lt_next (by have := hi.lt_lineCount; omega)
  have ho : l.startAt i ≤ o := hi.startAt_le
  omega

theorem InLine.unique (h : l.InOrder) {i j o : Nat} (hi : l.InLine i o) (hj : l.InLine j o) :
    i = j :=
  Nat.le_antisymm (hi.mono h hj (Nat.le_refl o)) (hj.mono h hi (Nat.le_refl o))

/-- The search finds the line that an offset stands in. -/
theorem inLine_countAtMost (h : l.InOrder) {o : Nat} (ho : o ≤ l.length) :
    l.InLine (countAtMost l.starts o 0 l.lineCount - 1) o := by
  obtain ⟨hk, hlow, hhigh⟩ := countAtMost_spec (a := l.starts) (x := o)
    (fun i j hij hj => h.startAt_mono hij hj) 0 l.lineCount (Nat.zero_le _) (Nat.le_refl _)
    (fun i hi => absurd hi (Nat.not_lt_zero i)) (fun i hi hi' => absurd hi' (Nat.not_lt.2 hi))
  have hpos : 0 < countAtMost l.starts o 0 l.lineCount := by
    by_contra hzero
    have h0 : o < l.startAt 0 := hhigh 0 (by omega) h.one_le_lineCount
    rw [h.startAt_zero] at h0
    omega
  refine ⟨by simp only [lineCount] at *; omega, hlow _ (by omega), fun hnext => ?_, ho⟩
  exact hhigh _ (by omega) hnext

theorem exists_inLine (h : l.InOrder) {o : Nat} (ho : o ≤ l.length) : ∃ i, l.InLine i o :=
  ⟨_, inLine_countAtMost h ho⟩

/-- The position of an offset: the line it stands in, and its distance from the start of it. -/
theorem toPosition_eq (h : l.InOrder) {i o : Nat} (hi : l.InLine i o) :
    l.toPosition o = .ok { line := i + 1, column := o - l.startAt i + 1, offset := o } := by
  have hio := (inLine_countAtMost h hi.le_length).unique h hi
  have hle := hi.le_length
  rw [toPosition, mapError_eq_ok_iff]
  simp only [findPosition, Int.toNat_natCast, hio]
  rw [if_neg (by omega)]
  rfl

/-- An offset has a position just if it is none before the text and none past its end. -/
theorem toPosition_eq_ok_iff (h : l.InOrder) {o : Int} {p : Position} :
    l.toPosition o = .ok p ↔ ∃ i, l.InLine i p.offset ∧ o = p.offset ∧ p.line = i + 1
      ∧ p.column = p.offset - l.startAt i + 1 := by
  constructor
  · intro hp
    have ho : 0 ≤ o ∧ o ≤ l.length := by
      by_contra hout
      rw [toPosition, mapError_eq_ok_iff, findPosition, if_pos (by omega)] at hp
      cases hp
    obtain ⟨n, rfl⟩ := Int.eq_ofNat_of_zero_le ho.1
    obtain ⟨i, hi⟩ := exists_inLine h (o := n) (by omega)
    have heq := toPosition_eq h hi
    rw [hp, Except.ok.injEq] at heq
    subst heq
    exact ⟨i, hi, rfl, rfl, rfl⟩
  · rintro ⟨i, hi, rfl, hline, hcolumn⟩
    rw [toPosition_eq h hi]
    cases p
    simp_all

theorem findStart_natCast (l : Location) {i : Nat} (hi : i < l.lineCount) :
    l.findStart (i + 1) = .ok (l.startAt i) := by
  rw [findStart, if_pos (by omega)]
  simp [startAt]

theorem lineStart_natCast (l : Location) {i : Nat} (hi : i < l.lineCount) :
    l.lineStart (i + 1) = .ok (l.startAt i) := by
  rw [lineStart, mapError_eq_ok_iff, findStart_natCast l hi]

/-- The limit of a line is the last of its offsets. -/
theorem inLine_iff_le_lineLimit (h : l.InOrder) {i o : Nat} (hi : i < l.lineCount)
    (ho : l.startAt i ≤ o) : l.InLine i o ↔ o ≤ l.lineLimit (i + 1) := by
  by_cases hnext : i + 1 < l.lineCount
  · have hlimit : l.lineLimit (i + 1) = l.startAt (i + 1) - 1 := by
      rw [lineLimit, if_pos (by omega)]
      rfl
    have hlt : l.startAt i < l.startAt (i + 1) := h.startAt_lt _ _ (Nat.lt_succ_self i) hnext
    have hle : l.startAt (i + 1) ≤ l.length := h.startAt_le _ hnext
    rw [hlimit]
    exact ⟨fun hin => by have := hin.lt_next hnext; omega,
      fun hle' => ⟨hi, ho, fun _ => by omega, by omega⟩⟩
  · have hlimit : l.lineLimit (i + 1) = l.length := by rw [lineLimit, if_neg (by omega)]
    rw [hlimit]
    exact ⟨fun hin => hin.le_length, fun hle => ⟨hi, ho, fun h' => absurd h' hnext, hle⟩⟩

/-- The offset of a line and a column: the one in that line at that distance from its start. -/
theorem toOffset_eq_ok_iff (h : l.InOrder) {line column : Int} {o : Nat} :
    l.toOffset line column = .ok o ↔ ∃ i, l.InLine i o ∧ line = i + 1
      ∧ column = o - l.startAt i + 1 := by
  constructor
  · intro ho
    by_cases hline : 1 ≤ line ∧ line ≤ l.lineCount
    · obtain ⟨i, rfl⟩ : ∃ i : Nat, line = i + 1 := ⟨(line - 1).toNat, by omega⟩
      have hi : i < l.lineCount := by omega
      rw [toOffset, mapError_eq_ok_iff, findOffset, findStart_natCast l hi] at ho
      simp only [bind, Except.bind] at ho
      split_ifs at ho with hout
      simp only [Except.ok.injEq] at ho
      exact ⟨i, (inLine_iff_le_lineLimit h hi (by omega)).2 (by omega), rfl, by omega⟩
    · rw [toOffset, mapError_eq_ok_iff, findOffset, findStart, if_neg hline] at ho
      cases ho
  · rintro ⟨i, hi, rfl, rfl⟩
    have hle := hi.startAt_le
    have hlimit := (inLine_iff_le_lineLimit h hi.lt_lineCount hle).1 hi
    rw [toOffset, mapError_eq_ok_iff, findOffset, findStart_natCast l hi.lt_lineCount]
    simp only [bind, Except.bind]
    rw [if_neg (by omega)]
    congr 1
    omega

end Location

end MarkdownLint
