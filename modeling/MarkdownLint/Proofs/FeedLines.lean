import MarkdownLint.Proofs.Deviations
import MarkdownLint.Proofs.LineCounts

/-!
# The lines of line feeds

A line feed is the last thing of its line, and if a carriage return belongs to it that stands in the
column before it (`endsLine_of_feed`).  So the rule on line breaks and the positions have the same
notion of where a line ends: of two line feeds the later one is in a later line
(`EndsLine.line_lt`), and there are fewer line feeds than lines (`length_lt_lineCount`).
-/

namespace MarkdownLint

/-- A line feed of some style at an index of a text ends the line of its position: nothing of the
line is behind it, the next line begins right after it, and in the style of two characters the first
of them is in the line as well. -/
structure EndsLine (text : String) (i : Nat) (found : LinebreakStyle) (p : Position) : Prop where
  feed : text.toList[i]? = some '\n'
  style : LinebreakStyle.at? text.toList i = some found
  position : (Location.ofText text).toPosition i = .ok p
  next : ∃ q, (Location.ofText text).toPosition (i + 1) = .ok q ∧ q.line = p.line + 1 ∧ q.column = 1
  greatest : IsGreatest {c : Int | ∃ o, (Location.ofText text).toOffset p.line c = .ok o} p.column
  carriage : found = .windows → ∃ q, (Location.ofText text).toPosition (i - 1) = .ok q
    ∧ q.line = p.line ∧ q.column + 1 = p.column

section Feeds

open Location

variable {text : String} {i a : Nat}

theorem inLine_next (hfeed : text.toList[i]? = some '\n') (ha : (ofText text).InLine a i) :
    (ofText text).InLine (a + 1) (i + 1) ∧ (ofText text).startAt (a + 1) = i + 1 := by
  have hlt : i < text.toList.length := (List.getElem?_eq_some_iff.1 hfeed).1
  obtain ⟨b, hb⟩ := exists_inLine (ofText_inOrder text) (o := i + 1) (by
    rw [ofText_length, ← String.length_toList]
    omega)
  have hend : EndsAt text.toList (i + 1) := endsAt_succ_iff.2 (.inl hfeed)
  have hline : b = a + 1 := by rw [ha.line_succ hb, if_pos hend]
  rw [hline] at hb
  have hlow := hb.startAt_le
  have hhigh := ha.lt_next hb.lt_lineCount
  exact ⟨hb, by omega⟩

/-- A carriage return is in the line of the line feed after it. -/
theorem inLine_carriage (hreturn : text.toList[i]? = some '\r')
    (hfeed : text.toList[i + 1]? = some '\n') (ha : (ofText text).InLine a (i + 1)) :
    (ofText text).InLine a i := by
  obtain ⟨b, hb⟩ := exists_inLine (ofText_inOrder text) (o := i) (by
    have := ha.le_length
    omega)
  have hnot : ¬ EndsAt text.toList (i + 1) := by simp [endsAt_succ_iff, hreturn, hfeed]
  have hline : a = b := by rw [hb.line_succ ha, if_neg hnot]
  rwa [hline]

theorem endsLine_of_feed {p : Position} (hfeed : text.toList[i]? = some '\n')
    (hp : (ofText text).toPosition i = .ok p) : EndsLine text i (styleAt text.toList i) p := by
  have h := ofText_inOrder text
  have hlt : i < text.toList.length := (List.getElem?_eq_some_iff.1 hfeed).1
  obtain ⟨a, ha⟩ := exists_inLine h (o := i) (by
    rw [ofText_length, ← String.length_toList]
    omega)
  obtain ⟨hnext, hstart⟩ := inLine_next hfeed ha
  have hle := ha.startAt_le
  obtain rfl := Except.ok.inj ((toPosition_eq h ha).symm.trans hp)
  refine ⟨hfeed, at?_eq_styleAt (Nat.le_of_lt hlt), hp, ?_, ⟨?_, ?_⟩, fun hwindows => ?_⟩
  · refine ⟨_, toPosition_eq h hnext, rfl, ?_⟩
    simp [hstart]
  · exact ⟨i, (toOffset_eq_ok_iff h).2 ⟨a, ha, by simp, by push_cast [hle]; rfl⟩⟩
  · rintro c ⟨o, ho⟩
    obtain ⟨b, hb, hline, rfl⟩ := (toOffset_eq_ok_iff h).1 ho
    obtain rfl : b = a := by
      push_cast at hline
      omega
    have hlast := hb.lt_next hnext.lt_lineCount
    push_cast [hle]
    omega
  · obtain ⟨hpos, hreturn⟩ : 0 < i ∧ text.toList[i - 1]? = some '\r' := by
      unfold styleAt at hwindows
      split_ifs at hwindows with hstyle
      exact hstyle
    obtain ⟨k, rfl⟩ : ∃ k, i = k + 1 := ⟨i - 1, by omega⟩
    have hk := inLine_carriage hreturn hfeed ha
    have hle' := hk.startAt_le
    have hback : ((k + 1 : Nat) : Int) - 1 = k := by omega
    rw [hback]
    refine ⟨_, toPosition_eq h hk, rfl, ?_⟩
    simp only
    omega

/-- Between two line feeds the line after the first of them begins. -/
theorem EndsLine.line_lt {j : Nat} {found found' : LinebreakStyle} {p q : Position}
    (hp : EndsLine text i found p) (hq : EndsLine text j found' q) (hij : i < j) :
    p.line < q.line := by
  have h := ofText_inOrder text
  obtain ⟨r, hr, hline, -⟩ := hp.next
  have hroffset := offset_of_toPosition h hr
  have hqoffset := offset_of_toPosition h hq.position
  have hle := le_of_offset_le h (hroffset ▸ hr) (hqoffset ▸ hq.position) (by omega)
  omega

/-- After each line feed a line begins that is not the first. -/
theorem length_lt_lineCount {indexes : List Nat} (hincreasing : indexes.Pairwise (· < ·))
    (hfeed : ∀ i ∈ indexes, text.toList[i]? = some '\n') :
    indexes.length < (ofText text).lineCount := by
  have hcard : indexes.length
      ≤ ((Finset.Icc 1 text.length).filter (StartsAt text.toList)).card := by
    rw [← List.toFinset_card_of_nodup (hincreasing.imp Nat.ne_of_lt)]
    refine Finset.card_le_card_of_injOn (· + 1) (fun i hi => ?_) (add_left_injective 1).injOn
    have hend : EndsAt text.toList (i + 1) :=
      endsAt_succ_iff.2 (.inl (hfeed i (List.mem_toFinset.1 hi)))
    have hle := hend.le_length
    rw [String.length_toList] at hle
    simp only [Finset.coe_filter, Finset.mem_Icc, Set.mem_ofPred_eq]
    exact ⟨⟨by omega, hle⟩, .inr hend⟩
  have hlast := InLine.eq_card (inLine_length text)
  have hcount := (ofText_inOrder text).one_le_lineCount
  omega

end Feeds

theorem pairwise_of_forall₂ {α β : Type} {R : α → β → Prop} {S : α → α → Prop} {T : β → β → Prop}
    {as : List α} {bs : List β} (h : List.Forall₂ R as bs) (has : as.Pairwise S)
    (hT : ∀ {a a' b b'}, S a a' → R a b → R a' b' → T b b') : bs.Pairwise T := by
  have hlength := h.length_eq
  refine List.pairwise_iff_getElem.2 fun i j hi hj hij => ?_
  have hS := List.pairwise_iff_getElem.1 has i j (by omega) (by omega) hij
  exact hT hS (h.get (by omega) hi) (h.get (by omega) hj)

namespace Linebreaks

/-- Every preference can be asked for.  Under a setting that asks for it a run adds diagnostics at
line feeds that end their lines, with the style of the line feed as the one found.  Each is in a
later line than those before it, and there are fewer of them than lines. -/
theorem run_lines (serial : Nat) (s : Sink) (preferred : Option LinebreakStyle) :
    (∃ setting, readOption setting = .ok preferred)
    ∧ ∃ (indexes : List Nat) (xs : List Diagnostic),
      List.Forall₂ (fun i x => ∃ expected found p, x.message = message expected found
        ∧ x.position = some p ∧ EndsLine s.document.text i found p) indexes xs
      ∧ indexes.Pairwise (· < ·)
      ∧ xs.Pairwise (fun x y => ∀ p q, x.position = some p → y.position = some q →
        p.line < q.line)
      ∧ xs.length < s.document.location.lineCount
      ∧ ∀ setting, readOption setting = .ok preferred →
        (rule serial).run s setting = ({ s with diagnostics := s.diagnostics ++ xs }, none) := by
  obtain ⟨indexes, xs, hincreasing, hmem, hdiagnosed, hxs⟩ := exists_diagnosed s preferred
  have hfeed : ∀ i ∈ indexes, s.document.text.toList[i]? = some '\n' := fun i hi =>
    ((hmem i).1 hi).feed
  have hends : List.Forall₂ (fun i x => ∃ expected found p, x.message = message expected found
      ∧ x.position = some p ∧ EndsLine s.document.text i found p) indexes xs := by
    refine ((List.forall₂_and_left _ _).2 ⟨hfeed, hdiagnosed⟩).imp ?_
    rintro i x ⟨hi, accepted, p, -, hp, rfl⟩
    rw [s.document.location_eq] at hp
    exact ⟨accepted, _, p, rfl, rfl, endsLine_of_feed hi hp⟩
  refine ⟨⟨_, readOption_optionValue preferred⟩, indexes, xs, hends, hincreasing, ?_, ?_,
    fun setting hread => Rule.run_make hread rfl hxs⟩
  · refine pairwise_of_forall₂ hends hincreasing ?_
    rintro i j x y hij ⟨_, _, p, -, hxp, hp⟩ ⟨_, _, q, -, hyq, hq⟩ p' q' hxp' hyq'
    obtain rfl := Option.some.inj (hxp.symm.trans hxp')
    obtain rfl := Option.some.inj (hyq.symm.trans hyq')
    exact hp.line_lt hq hij
  · rw [← hends.length_eq, s.document.location_eq]
    exact length_lt_lineCount hincreasing hfeed

end Linebreaks

end MarkdownLint
