import MarkdownLint.Proofs.LineEnds
import Mathlib.Data.Finset.Card
import Mathlib.Data.List.Sort
import Mathlib.Order.Bounds.Basic
import Mathlib.Order.Interval.Finset.Nat

/-!
# Lines by counting

A line begins at 0 and where a line end stops, and these offsets are the line starts of the text,
in order (`starts_eq_filter`).  So the line of an offset is told by how many of them come before it
(`InLine.eq_card`), its column by the greatest of them that is not behind it
(`isGreatest_startAt`), and the number of lines by how many line breaks the text has, where a
carriage return with a line feed after it is one of them (`card_ends`).
-/

namespace MarkdownLint

/-- A line begins at an offset of a text. -/
def StartsAt (cs : List Char) (o : Nat) : Prop :=
  o = 0 ∨ EndsAt cs o

instance (cs : List Char) : DecidablePred (StartsAt cs) :=
  fun o => inferInstanceAs (Decidable (o = 0 ∨ EndsAt cs o))

/-- The indexes of the carriage returns that have a line feed after them. -/
def pairedReturns (cs : List Char) : Finset Nat :=
  (Finset.range cs.length).filter fun i => cs[i]? = some '\r' ∧ cs[i + 1]? = some '\n'

/-- The indexes of the carriage returns that have no line feed after them. -/
def loneReturns (cs : List Char) : Finset Nat :=
  (Finset.range cs.length).filter fun i => cs[i]? = some '\r' ∧ cs[i + 1]? ≠ some '\n'

/-- The indexes of the line feeds that have no carriage return before them. -/
def loneFeeds (cs : List Char) : Finset Nat :=
  (Finset.range cs.length).filter fun i =>
    cs[i]? = some '\n' ∧ ¬ (0 < i ∧ cs[i - 1]? = some '\r')

section Breaks

variable {cs : List Char} {i o : Nat}

theorem mem_pairedReturns :
    i ∈ pairedReturns cs ↔ cs[i]? = some '\r' ∧ cs[i + 1]? = some '\n' := by
  rw [pairedReturns, Finset.mem_filter, Finset.mem_range]
  exact and_iff_right_of_imp fun h => (List.getElem?_eq_some_iff.1 h.1).1

theorem mem_loneReturns :
    i ∈ loneReturns cs ↔ cs[i]? = some '\r' ∧ cs[i + 1]? ≠ some '\n' := by
  rw [loneReturns, Finset.mem_filter, Finset.mem_range]
  exact and_iff_right_of_imp fun h => (List.getElem?_eq_some_iff.1 h.1).1

theorem mem_loneFeeds :
    i ∈ loneFeeds cs ↔ cs[i]? = some '\n' ∧ ¬ (0 < i ∧ cs[i - 1]? = some '\r') := by
  rw [loneFeeds, Finset.mem_filter, Finset.mem_range]
  exact and_iff_right_of_imp fun h => (List.getElem?_eq_some_iff.1 h.1).1

/-- A line end stops behind a line break of one of the three kinds. -/
theorem endsAt_iff_break :
    EndsAt cs o ↔ (∃ i ∈ pairedReturns cs, i + 2 = o) ∨ (∃ i ∈ loneReturns cs, i + 1 = o)
      ∨ ∃ i ∈ loneFeeds cs, i + 1 = o := by
  simp only [mem_pairedReturns, mem_loneReturns, mem_loneFeeds]
  constructor
  · rintro ⟨i, rfl, hfeed | hreturn⟩
    · by_cases hpaired : 0 < i ∧ cs[i - 1]? = some '\r'
      · obtain ⟨k, rfl⟩ : ∃ k, i = k + 1 := ⟨i - 1, by omega⟩
        exact .inl ⟨k, ⟨hpaired.2, hfeed⟩, rfl⟩
      · exact .inr (.inr ⟨i, ⟨hfeed, hpaired⟩, rfl⟩)
    · exact .inr (.inl ⟨i, hreturn, rfl⟩)
  · rintro (⟨i, h, rfl⟩ | ⟨i, h, rfl⟩ | ⟨i, h, rfl⟩)
    · exact ⟨i + 1, rfl, .inl h.2⟩
    · exact ⟨i, rfl, .inr h⟩
    · exact ⟨i, rfl, .inl h.1⟩

theorem pos_of_endsAt (h : EndsAt cs o) : 0 < o :=
  Nat.pos_of_ne_zero fun h0 => not_endsAt_zero cs (h0 ▸ h)

theorem startsAt_iff_endsAt (h : 0 < o) : StartsAt cs o ↔ EndsAt cs o :=
  or_iff_right (Nat.ne_of_gt h)

/-- The line starts behind 0 are those behind the line breaks of each kind. -/
theorem starts_eq_union (cs : List Char) :
    (Finset.Icc 1 cs.length).filter (StartsAt cs)
      = (pairedReturns cs).image (· + 2)
        ∪ ((loneReturns cs).image (· + 1) ∪ (loneFeeds cs).image (· + 1)) := by
  ext o
  simp only [Finset.mem_filter, Finset.mem_Icc, Finset.mem_union, Finset.mem_image,
    ← endsAt_iff_break]
  constructor
  · rintro ⟨⟨hpos, -⟩, h⟩
    exact (startsAt_iff_endsAt hpos).1 h
  · intro h
    exact ⟨⟨pos_of_endsAt h, h.le_length⟩, .inr h⟩

/-- No line end belongs to two line breaks. -/
theorem card_starts (cs : List Char) :
    ((Finset.Icc 1 cs.length).filter (StartsAt cs)).card
      = (pairedReturns cs).card + ((loneReturns cs).card + (loneFeeds cs).card) := by
  have hlone : Disjoint ((loneReturns cs).image (· + 1)) ((loneFeeds cs).image (· + 1)) := by
    simp only [Finset.disjoint_left, Finset.mem_image, not_exists, not_and]
    rintro _ ⟨i, hi, rfl⟩ j hj heq
    obtain rfl : j = i := Nat.succ.inj heq
    have hreturn := (mem_loneReturns.1 hi).1
    rw [(mem_loneFeeds.1 hj).1] at hreturn
    exact absurd hreturn (by decide)
  have hpaired : Disjoint ((pairedReturns cs).image (· + 2))
      ((loneReturns cs).image (· + 1) ∪ (loneFeeds cs).image (· + 1)) := by
    simp only [Finset.disjoint_left, Finset.mem_union, Finset.mem_image, not_or, not_exists,
      not_and]
    rintro _ ⟨i, hi, rfl⟩
    obtain ⟨hreturn, hfeed⟩ := mem_pairedReturns.1 hi
    refine ⟨fun j hj heq => ?_, fun j hj heq => ?_⟩
    · obtain rfl : j = i + 1 := Nat.succ.inj heq
      rw [(mem_loneReturns.1 hj).1] at hfeed
      exact absurd hfeed (by decide)
    · obtain rfl : j = i + 1 := Nat.succ.inj heq
      exact (mem_loneFeeds.1 hj).2 ⟨Nat.succ_pos i, hreturn⟩
  rw [starts_eq_union, Finset.card_union_of_disjoint hpaired, Finset.card_union_of_disjoint hlone,
    Finset.card_image_of_injective _ (add_left_injective 2),
    Finset.card_image_of_injective _ (add_left_injective 1),
    Finset.card_image_of_injective _ (add_left_injective 1)]

end Breaks

namespace Location

variable {text : String} {i o : Nat}

/-- Lines begin at the line starts. -/
theorem startsAt_iff :
    StartsAt text.toList o ↔ ∃ k < (ofText text).lineCount, (ofText text).startAt k = o := by
  have h := ofText_inOrder text
  rw [StartsAt, endsAt_iff]
  constructor
  · rintro (rfl | ⟨k, hk, rfl⟩)
    · exact ⟨0, h.one_le_lineCount, h.startAt_zero⟩
    · exact ⟨k + 1, hk, rfl⟩
  · rintro ⟨_ | k, hk, rfl⟩
    · exact .inl h.startAt_zero
    · exact .inr ⟨k, hk, rfl⟩

theorem mem_starts_iff : o ∈ (ofText text).starts.toList ↔ StartsAt text.toList o := by
  have hstarts : (ofText text).starts.toList = 0 :: lineEnds 0 text.toList := rfl
  rw [hstarts, List.mem_cons, mem_lineEnds_iff]
  simp [StartsAt]

theorem starts_eq_filter (text : String) :
    (ofText text).starts.toList
      = (List.range (text.length + 1)).filter (StartsAt text.toList) := by
  have hincreasing : (ofText text).starts.toList.Pairwise (· < ·) :=
    lineStarts_increasing text.toList
  refine hincreasing.eq_of_mem_iff (List.pairwise_lt_range.filter _) fun o => ?_
  rw [mem_starts_iff, List.mem_filter, List.mem_range, decide_eq_true_eq]
  refine (and_iff_right_of_imp fun h => ?_).symm
  rcases h with rfl | h
  · exact Nat.succ_pos _
  · rw [← String.length_toList]
    exact Nat.lt_succ_of_le h.le_length

/-- By induction on the offset: as many lines begin after the first and up to an offset as come
before its own. -/
theorem InLine.eq_card : ∀ {o i : Nat}, (ofText text).InLine i o →
    i = ((Finset.Icc 1 o).filter (StartsAt text.toList)).card
  | 0, i, hi => by
    have h := ofText_inOrder text
    have hzero : (ofText text).startAt i ≤ (ofText text).startAt 0 :=
      hi.startAt_le.trans (Nat.zero_le _)
    by_contra hne
    have hlt := h.startAt_lt 0 i (Nat.pos_of_ne_zero (by simpa using hne)) hi.lt_lineCount
    omega
  | o + 1, i, hi => by
    obtain ⟨j, hj⟩ := exists_inLine (ofText_inOrder text) (o := o) (by
      have := hi.le_length
      omega)
    have hline := hj.line_succ hi
    have hinsert : Finset.Icc 1 (o + 1) = insert (o + 1) (Finset.Icc 1 o) := by
      ext k
      simp only [Finset.mem_Icc, Finset.mem_insert]
      omega
    rw [hinsert, Finset.filter_insert, hline]
    simp only [startsAt_iff_endsAt (Nat.succ_pos o)]
    split_ifs with hend
    · rw [Finset.card_insert_of_notMem (by simp), ← InLine.eq_card hj]
    · exact InLine.eq_card hj

/-- The line of an offset begins at the greatest line start that is not behind the offset. -/
theorem isGreatest_startAt (hi : (ofText text).InLine i o) :
    IsGreatest {s | StartsAt text.toList s ∧ s ≤ o} ((ofText text).startAt i) := by
  have h := ofText_inOrder text
  refine ⟨⟨startsAt_iff.2 ⟨i, hi.lt_lineCount, rfl⟩, hi.startAt_le⟩, ?_⟩
  rintro s ⟨hs, hle⟩
  obtain ⟨k, hk, rfl⟩ := startsAt_iff.1 hs
  exact h.startAt_mono ((hi.startAt_le_iff h hk).1 hle) hi.lt_lineCount

theorem inLine_length (text : String) :
    (ofText text).InLine ((ofText text).lineCount - 1) text.length := by
  have h := ofText_inOrder text
  have hcount := h.one_le_lineCount
  have hstart := h.startAt_le ((ofText text).lineCount - 1) (by omega)
  rw [ofText_length] at hstart
  exact ⟨by omega, hstart, fun hnext => by omega, (ofText_length text).ge⟩

/-- The line starts of a text are the offsets at which a line begins, in increasing order: 0, and
those behind a line feed or a carriage return that no line feed follows.  The line of an offset is
one more than the number of them after 0 and up to the offset, and its column one more than the
distance from the greatest of them.  There is one line more than there are pairs of a carriage
return and a line feed, lone carriage returns and lone line feeds. -/
theorem starts_and_counts (text : String) :
    let l := ofText text
    let cs := text.toList
    l.starts.toList = (List.range (text.length + 1)).filter (StartsAt cs)
    ∧ l.starts.toList.Pairwise (· < ·)
    ∧ (∀ o ≤ text.length, ∃ p start, l.toPosition o = .ok p
      ∧ IsGreatest {s | StartsAt cs s ∧ s ≤ o} start
      ∧ p.line = 1 + ((Finset.Icc 1 o).filter (StartsAt cs)).card
      ∧ p.column = 1 + (o - start))
    ∧ l.lineCount
      = 1 + ((pairedReturns cs).card + ((loneReturns cs).card + (loneFeeds cs).card)) := by
  intro l cs
  have h : l.InOrder := ofText_inOrder text
  refine ⟨starts_eq_filter text, lineStarts_increasing cs, fun o ho => ?_, ?_⟩
  · obtain ⟨i, hi⟩ := exists_inLine h (o := o) (by rwa [ofText_length])
    have hline : i + 1 = 1 + ((Finset.Icc 1 o).filter (StartsAt cs)).card := by
      rw [← InLine.eq_card hi, Nat.add_comm]
    exact ⟨_, _, toPosition_eq h hi, isGreatest_startAt hi, hline, Nat.add_comm _ _⟩
  · have hlast := InLine.eq_card (inLine_length text)
    rw [← String.length_toList, card_starts] at hlast
    have hcount : 1 ≤ (ofText text).lineCount := h.one_le_lineCount
    rw [← hlast]
    exact (Nat.add_sub_cancel' hcount).symm

/-- A lone carriage return before a pair, a line feed before a carriage return at the end. -/
example :
    (ofText "a\r\r\n\n\r").starts.toList = [0, 2, 4, 5, 6]
      ∧ pairedReturns "a\r\r\n\n\r".toList = {2} ∧ loneReturns "a\r\r\n\n\r".toList = {1, 5}
      ∧ loneFeeds "a\r\r\n\n\r".toList = {4} := by
  decide +kernel

end Location

end MarkdownLint
