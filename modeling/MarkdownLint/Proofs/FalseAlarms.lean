import MarkdownLint.Proofs.ExceedingSpans

/-!
# False alarms

The rule on blank lines reports the next child where that begins on the line after the one of the
end of the node.  The end of a span is behind its last character, so it is on the line of that one
unless the span ends with its line break (`lines_of_adjacent`).  Where it does, there is a line
between the two nodes that may well be blank, and the rule reports that a blank line is missing all
the same (`run_alarms`, `alarm_behind_blank`).
-/

namespace MarkdownLint.BlankLines

/-- No line lies between that of the last character of one span and that on which another
begins. -/
def Touching (l : Location) (a b : Span) : Prop :=
  ∃ last first, l.toPosition (a.stop - 1 : Nat) = .ok last ∧ l.toPosition b.start = .ok first
    ∧ ∀ line, ¬ (last.line < line ∧ line < first.line)

section Lines

variable {d : Document} {a b : Span}

/-- From the line of the last character of a span to the one on which the next begins. -/
theorem lines_of_adjacent (h : Adjacent d.location a b) (ha : a.start < a.stop) :
    ∃ last first, d.location.toPosition (a.stop - 1 : Nat) = .ok last
      ∧ d.location.toPosition b.start = .ok first
      ∧ first.line = last.line + if EndsAt d.text.toList a.stop then 2 else 1 := by
  have hstop := h.le_length.1
  obtain ⟨p, q, hp, hq, hline⟩ := h
  obtain ⟨k, hk⟩ : ∃ k, a.stop = k + 1 := ⟨a.stop - 1, by omega⟩
  have hpred : a.stop - 1 = k := by omega
  rw [hpred, hk]
  rw [hk] at hstop hp
  rw [← d.length_location] at hstop
  obtain ⟨i, hi⟩ := Location.exists_inLine d.inOrder (o := k) (by omega)
  obtain ⟨j, hj⟩ := Location.exists_inLine d.inOrder hstop
  rw [Location.toPosition_eq d.inOrder hj, Except.ok.injEq] at hp
  refine ⟨_, q, Location.toPosition_eq d.inOrder hi, hq, ?_⟩
  rw [d.location_eq] at hi hj
  rw [hline, ← hp, hi.line_succ hj]
  split_ifs <;> rfl

/-- Nodes on adjacent lines have no line between them just if the span of the first does not end
with a line break. -/
theorem touching_iff (h : Adjacent d.location a b) (ha : a.start < a.stop) :
    Touching d.location a b ↔ ¬ EndsAt d.text.toList a.stop := by
  obtain ⟨last, first, hlast, hfirst, hlines⟩ := lines_of_adjacent h ha
  have htouching : Touching d.location a b
      ↔ ∀ line, ¬ (last.line < line ∧ line < first.line) := by
    simp only [Touching, hlast, hfirst, Except.ok.injEq, exists_eq_left', exists_and_left]
  rw [htouching]
  split_ifs at hlines with hend
  · refine iff_of_false (fun h => h (last.line + 1) (by omega)) (not_not_intro hend)
  · exact iff_of_true (fun line => by omega) hend

end Lines

/-- Both options can be asked for.  Over a tree whose spans end within the text, each report is of
a node on the line after the end of the one before it.  If that has a character, then there is no
line between them just if its span does not end with a line break; if it does, there is one. -/
theorem run_alarms (serial : Nat) (s : Sink) (o : BlankLineOptions)
    (hs : s.document.tree.EndsBy s.document.text.length) :
    (∃ setting, readOption setting = .ok o)
    ∧ ∃ (places : List (List Nat × Node)) (xs : List Diagnostic),
      (∀ p next, (p, next) ∈ places ↔ Reports o s.document p next)
      ∧ List.Forall₂ (fun place x => Diagnosed s place.2 x) places xs
      ∧ (∀ setting, readOption setting = .ok o →
        (rule serial).run s setting = ({ s with diagnostics := s.diagnostics ++ xs }, none))
      ∧ ∀ p next, (p, next) ∈ places → ∃ a b, Compares o s.document.tree p a next b
        ∧ (a.start < a.stop →
          (Touching s.document.location a b ↔ ¬ EndsAt s.document.text.toList a.stop)
          ∧ ∃ last first, s.document.location.toPosition (a.stop - 1 : Nat) = .ok last
            ∧ s.document.location.toPosition b.start = .ok first
            ∧ first.line = last.line + if EndsAt s.document.text.toList a.stop then 2 else 1) := by
  obtain ⟨places, xs, -, hplaces, hxs, hrun⟩ := run_silent (o := o) (s := s) serial
    fun p => not_exceeds_of_endsBy hs
  refine ⟨⟨.blankLines o, rfl⟩, places, xs, hplaces, hxs, hrun, fun p next hplace => ?_⟩
  obtain ⟨a, b, hcompares, hadjacent⟩ := (hplaces p next).1 hplace
  exact ⟨a, b, hcompares, fun ha => ⟨touching_iff hadjacent ha, lines_of_adjacent hadjacent ha⟩⟩

/-- Two paragraphs with an empty line between them, of which the first has its line break. -/
def separatedSink : Sink where
  document := twoParagraphs "a\n\nb" ⟨0, 2, Nat.zero_le 2⟩ ⟨3, 4, Nat.le_succ 3⟩

theorem endsBy_separatedSink :
    separatedSink.document.tree.EndsBy separatedSink.document.text.length := by
  have hlength : separatedSink.document.text.length = 4 := rfl
  rw [hlength]
  simp [separatedSink, twoParagraphs, Node.endsBy_mk_iff]

theorem run_alarms_separated :
    separatedSink.document.tree.EndsBy separatedSink.document.text.length
    ∧ ∃ (places : List (List Nat × Node)) (xs : List Diagnostic) (next : Node),
      ([0], next) ∈ places
      ∧ List.Forall₂ (fun place x => Diagnosed separatedSink place.2 x) places xs
      ∧ (rule 1).run separatedSink (.blankLines ⟨false⟩)
        = ({ separatedSink with diagnostics := separatedSink.diagnostics ++ xs }, none)
      ∧ ¬ Touching separatedSink.document.location ⟨0, 2, by decide⟩ ⟨3, 4, by decide⟩ := by
  have hends := endsBy_separatedSink
  obtain ⟨-, places, xs, hplaces, hxs, hrun, hlines⟩ := run_alarms 1 separatedSink ⟨false⟩ hends
  have hcompares : Compares ⟨false⟩ separatedSink.document.tree [0] ⟨0, 2, by decide⟩ _
      ⟨3, 4, by decide⟩ := compares_twoParagraphs _ _ _
  have hadjacent : Adjacent separatedSink.document.location ⟨0, 2, by decide⟩ ⟨3, 4, by decide⟩ :=
    ⟨{ line := 2, column := 1, offset := 2 }, { line := 3, column := 1, offset := 3 },
      by decide +kernel, by decide +kernel, rfl⟩
  have hplace := (hplaces [0] _).2 ⟨_, _, hcompares, hadjacent⟩
  obtain ⟨a, b, hcompares', htouching⟩ := hlines _ _ hplace
  obtain ⟨rfl, -, rfl⟩ := hcompares.unique hcompares'
  have hend : EndsAt separatedSink.document.text.toList 2 := by decide +kernel
  refine ⟨hends, places, xs, _, hplace, hxs, hrun _ rfl, ?_⟩
  rw [(htouching (by decide)).1]
  exact not_not_intro hend

/-- The rule reports the second paragraph, though there is a line between the two, and that is
empty. -/
theorem alarm_behind_blank :
    ∃ (s : Sink) (p : List Nat) (a : Span) (next : Node) (b : Span) (x : Diagnostic),
      s.document.text = "a\n\nb" ∧ s.document.tree.EndsBy s.document.text.length
      ∧ Compares ⟨false⟩ s.document.tree p a next b ∧ a.start < a.stop
      ∧ ((rule 1).run s .null).1.diagnostics = #[x] ∧ Diagnosed s next x
      ∧ x.text = "3:1-3:2: Missing blank line before block node"
      ∧ ∃ last first, s.document.location.toPosition (a.stop - 1 : Nat) = .ok last
        ∧ s.document.location.toPosition b.start = .ok first
        ∧ last.line < 2 ∧ 2 < first.line := by
  have hlast : separatedSink.document.location.toPosition 1
      = .ok { line := 1, column := 2, offset := 1 } := by decide +kernel
  have hfirst : separatedSink.document.location.toPosition 3
      = .ok { line := 3, column := 1, offset := 3 } := by decide +kernel
  have hend : separatedSink.document.location.toPosition 4
      = .ok { line := 3, column := 2, offset := 4 } := by decide +kernel
  refine ⟨separatedSink, [0], ⟨0, 2, by decide⟩, _, ⟨3, 4, by decide⟩, _, rfl,
    endsBy_separatedSink, compares_twoParagraphs _ _ _, by decide, ?_,
    ⟨_, _, _, rfl, hfirst, hend, rfl⟩, by decide +kernel, _, _, hlast, hfirst, by decide,
    by decide⟩
  decide +kernel

end MarkdownLint.BlankLines
