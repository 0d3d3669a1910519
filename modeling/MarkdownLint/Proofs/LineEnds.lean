import MarkdownLint.Proofs.LineStarts

/-!
# Where lines end

A line end stops at an offset if a line feed is right before it, or a carriage return that is not
followed by a line feed.  The scan for line ends finds just these offsets (`mem_lineEnds_iff`), so
they are the starts of all lines but the first (`endsAt_iff`), and two offsets stand in adjacent
lines if one line end stops behind the first and not behind the second (`line_eq_succ_iff`).  From
one offset to the next the line goes up by one at a line end, and else stays (`InLine.line_succ`).
-/

namespace MarkdownLint

/-- A line end stops at an offset of a text, where a carriage return and the line feed after it are
one line end. -/
def EndsAt (cs : List Char) (o : Nat) : Prop :=
  ∃ i, o = i + 1 ∧ (cs[i]? = some '\n' ∨ cs[i]? = some '\r' ∧ cs[i + 1]? ≠ some '\n')

theorem not_endsAt_zero (cs : List Char) : ¬ EndsAt cs 0 := by
  rintro ⟨i, hi, -⟩
  exact absurd hi.symm (Nat.succ_ne_zero i)

theorem endsAt_succ_iff {cs : List Char} {i : Nat} :
    EndsAt cs (i + 1) ↔ cs[i]? = some '\n' ∨ cs[i]? = some '\r' ∧ cs[i + 1]? ≠ some '\n' := by
  simp [EndsAt]

instance (cs : List Char) : DecidablePred (EndsAt cs)
  | 0 => isFalse (not_endsAt_zero cs)
  | _ + 1 => decidable_of_iff _ endsAt_succ_iff.symm

theorem EndsAt.le_length {cs : List Char} {o : Nat} (h : EndsAt cs o) : o ≤ cs.length := by
  obtain ⟨i, rfl, h⟩ := h
  rcases h with h | ⟨h, -⟩
  · exact (List.getElem?_eq_some_iff.1 h).1
  · exact (List.getElem?_eq_some_iff.1 h).1

theorem endsAt_cons_iff {c : Char} {cs : List Char} {o : Nat} :
    EndsAt (c :: cs) (o + 1)
      ↔ o = 0 ∧ (c = '\n' ∨ c = '\r' ∧ cs[0]? ≠ some '\n') ∨ EndsAt cs o := by
  constructor
  · rintro ⟨_ | i, ho, h⟩
    · exact .inl ⟨Nat.succ.inj ho, by simpa using h⟩
    · exact .inr ⟨i, Nat.succ.inj ho, by simpa using h⟩
  · rintro (⟨rfl, h⟩ | ⟨i, rfl, h⟩)
    · exact ⟨0, rfl, by simpa using h⟩
    · exact ⟨i + 1, rfl, by simpa using h⟩

theorem exists_endsAt_cons_iff {o e : Nat} {c : Char} {cs : List Char} :
    (∃ k, e = o + k ∧ EndsAt (c :: cs) k)
      ↔ e = o + 1 ∧ (c = '\n' ∨ c = '\r' ∧ cs[0]? ≠ some '\n')
        ∨ ∃ k, e = o + 1 + k ∧ EndsAt cs k := by
  constructor
  · rintro ⟨_ | k, rfl, hk⟩
    · exact absurd hk (not_endsAt_zero _)
    · rcases endsAt_cons_iff.1 hk with ⟨rfl, h⟩ | h
      · exact .inl ⟨rfl, h⟩
      · exact .inr ⟨k, by omega, h⟩
  · rintro (⟨rfl, h⟩ | ⟨k, rfl, hk⟩)
    · exact ⟨1, rfl, endsAt_cons_iff.2 (.inl ⟨rfl, h⟩)⟩
    · exact ⟨k + 1, by omega, endsAt_cons_iff.2 (.inr hk)⟩

theorem mem_lineEnds_iff (o : Nat) (cs : List Char) :
    ∀ e, e ∈ lineEnds o cs ↔ ∃ k, e = o + k ∧ EndsAt cs k := by
  fun_induction lineEnds o cs with
  | case1 o => simp [EndsAt]
  | case2 o cs ih =>
    intro e
    rw [List.mem_cons, ih e, exists_endsAt_cons_iff, exists_endsAt_cons_iff]
    simp
  | case3 o c cs hnot hbreak ih =>
    intro e
    have hend : c = '\n' ∨ c = '\r' ∧ cs[0]? ≠ some '\n' := by
      refine hbreak.imp_right fun hc => ⟨hc, fun hfeed => ?_⟩
      cases cs with
      | nil => cases hfeed
      | cons c' cs => exact hnot cs hc (congrArg (· :: cs) (Option.some.inj hfeed))
    rw [List.mem_cons, ih e, exists_endsAt_cons_iff, and_iff_left hend]
  | case4 o c cs hnot hbreak ih =>
    intro e
    have hend : ¬ (c = '\n' ∨ c = '\r' ∧ cs[0]? ≠ some '\n') := fun h =>
      hbreak (h.imp_right And.left)
    rw [ih e, exists_endsAt_cons_iff, or_iff_right fun h => hend h.2]

namespace Location

/-- Line ends stop where the lines after the first begin. -/
theorem endsAt_iff {text : String} {o : Nat} :
    EndsAt text.toList o
      ↔ ∃ k, k + 1 < (ofText text).lineCount ∧ (ofText text).startAt (k + 1) = o := by
  have hmem := mem_lineEnds_iff 0 text.toList o
  simp only [Nat.zero_add, exists_eq_left'] at hmem
  have hcount : (ofText text).lineCount = (lineEnds 0 text.toList).length + 1 := rfl
  rw [← hmem, List.mem_iff_getElem]
  constructor
  · rintro ⟨k, hk, rfl⟩
    have hline : k + 1 < (ofText text).lineCount := by omega
    obtain ⟨_, heq⟩ := ofText_startAt hline
    refine ⟨k, hline, ?_⟩
    rw [heq]
    rfl
  · rintro ⟨k, hk, rfl⟩
    obtain ⟨_, heq⟩ := ofText_startAt hk
    refine ⟨k, by omega, ?_⟩
    rw [heq]
    rfl

variable {l : Location} {i j k a b : Nat}

theorem InLine.startAt_le_iff (h : l.InOrder) (hi : l.InLine i a) (hk : k < l.lineCount) :
    l.startAt k ≤ a ↔ k ≤ i := by
  constructor
  · intro hle
    by_contra hlt
    have hnext : l.startAt (i + 1) ≤ l.startAt k := h.startAt_mono (by omega) hk
    have ha : a < l.startAt (i + 1) := hi.lt_next (by omega)
    omega
  · intro hle
    exact Nat.le_trans (h.startAt_mono hle hi.lt_lineCount) hi.startAt_le

/-- The line starts behind one offset and not behind another are those of the lines after the one
and up to the other. -/
theorem InLine.between_iff (h : l.InOrder) (hi : l.InLine i a) (hj : l.InLine j b)
    (hk : k < l.lineCount) : a < l.startAt k ∧ l.startAt k ≤ b ↔ i < k ∧ k ≤ j := by
  rw [← Nat.not_le, hi.startAt_le_iff h hk, hj.startAt_le_iff h hk, Nat.not_le]

/-- An offset stands in the line after that of another just if one line end stops between them. -/
theorem line_eq_succ_iff {text : String} (hi : (ofText text).InLine i a)
    (hj : (ofText text).InLine j b) :
    j = i + 1 ↔ ∃! o, EndsAt text.toList o ∧ a < o ∧ o ≤ b := by
  have h := ofText_inOrder text
  constructor
  · rintro rfl
    refine ⟨(ofText text).startAt (i + 1), ⟨endsAt_iff.2 ⟨i, hj.lt_lineCount, rfl⟩, ?_⟩, ?_⟩
    · exact (hi.between_iff h hj hj.lt_lineCount).2 ⟨Nat.lt_succ_self i, Nat.le_refl _⟩
    · rintro o ⟨ho, hbetween⟩
      obtain ⟨k, hk, rfl⟩ := endsAt_iff.1 ho
      have := (hi.between_iff h hj hk).1 hbetween
      obtain rfl : k = i := by omega
      rfl
  · rintro ⟨o, ⟨ho, hbetween⟩, hunique⟩
    obtain ⟨k, hk, rfl⟩ := endsAt_iff.1 ho
    have hline := (hi.between_iff h hj hk).1 hbetween
    -- The starts of the lines right after the one and of the other are both between them.
    have hstart : ∀ m, i < m → m ≤ j → (ofText text).startAt m = (ofText text).startAt (k + 1) := by
      intro m hm hmj
      have hlt : m < (ofText text).lineCount := Nat.lt_of_le_of_lt hmj hj.lt_lineCount
      obtain ⟨m, rfl⟩ : ∃ n, m = n + 1 := ⟨m - 1, by omega⟩
      exact hunique _ ⟨endsAt_iff.2 ⟨m, hlt, rfl⟩, (hi.between_iff h hj hlt).2 ⟨hm, hmj⟩⟩
    by_contra hne
    have hlt := h.startAt_lt (i + 1) j (by omega) hj.lt_lineCount
    rw [hstart (i + 1) (by omega) (by omega), hstart j (by omega) (Nat.le_refl j)] at hlt
    exact Nat.lt_irrefl _ hlt

/-- From an offset to the next the line is the same, or the next one if a line end stops there. -/
theorem InLine.line_succ {text : String} {o : Nat} (hi : (ofText text).InLine i o)
    (hj : (ofText text).InLine j (o + 1)) :
    j = if EndsAt text.toList (o + 1) then i + 1 else i := by
  have h := ofText_inOrder text
  split_ifs with hend
  · exact (line_eq_succ_iff hi hj).2
      ⟨o + 1, ⟨hend, Nat.lt_succ_self o, Nat.le_refl _⟩, fun e he => by omega⟩
  · have hij : i ≤ j := hi.mono h hj (Nat.le_succ o)
    by_contra hne
    -- The line of the next offset would begin at it.
    obtain ⟨k, rfl⟩ : ∃ k, j = k + 1 := ⟨j - 1, by omega⟩
    have hstart := (hi.between_iff h hj hj.lt_lineCount).2 ⟨by omega, Nat.le_refl _⟩
    exact hend (endsAt_iff.2 ⟨k, hj.lt_lineCount, by omega⟩)

end Location

end MarkdownLint
