import MarkdownLint.Proofs.Positions
import MarkdownLint.Rule

/-!
# Recording reports

A report that is placed within the text can be placed (`place_of_within`), so reports that all are
get recorded one after the other, each with the marks of the sink (`reportAll_of_within`).  What a
check finds then ends up in the sink as a whole, if the check came to its end
(`record_of_within`).  Where the diagnostics are known that the reports ask for, these are what a
run of the rule adds (`Rule.run_make`).
-/

namespace MarkdownLint

/-- A place that a text of some length has: an offset, or a node whose span ends within it. -/
inductive Locatable.Within (length : Nat) : Locatable → Prop
  | offset {o : Nat} (le : o ≤ length) : Within length (.offset o)
  | node {n : Node} {s : Span} (span : n.span = some s) (le : s.stop ≤ length)
      (parent : Option Node) : Within length (.node n parent)

/-- A position, and perhaps a range that begins there, are those of offsets in the text, and the
range does not end before it begins. -/
structure Located (l : Location) (position : Option Position) (range : Option PositionRange) :
    Prop where
  position_eq : ∃ p, position = some p ∧ l.toPosition p.offset = .ok p
  range_eq : ∀ r, range = some r → position = some r.start
    ∧ l.toPosition r.start.offset = .ok r.start ∧ l.toPosition r.stop.offset = .ok r.stop
    ∧ r.start.offset ≤ r.stop.offset
    ∧ (r.start.line < r.stop.line
      ∨ r.start.line = r.stop.line ∧ r.start.column ≤ r.stop.column)

/-- A diagnostic with the marks of a sink, at a place of its document. -/
structure Sink.Marks (s : Sink) (x : Diagnostic) : Prop where
  ruleId : x.ruleId = s.ruleId
  source : x.source = s.source
  severity : x.severity = s.severity
  located : Located s.document.location x.position x.range

/-- A check came to its end, and all it reports is within the text. -/
structure Findings.Within (length : Nat) (f : Findings) : Prop where
  ending : f.ending = none
  reports : ∀ r ∈ f.reports, r.place.Within length

/-- Where each of some things is related to something, they all are to a list. -/
theorem exists_forall₂ {α β : Type} {R : α → β → Prop} :
    ∀ {as : List α}, (∀ a ∈ as, ∃ b, R a b) → ∃ bs, List.Forall₂ R as bs
  | [], _ => ⟨[], .nil⟩
  | a :: as, h => by
    obtain ⟨b, hb⟩ := h a List.mem_cons_self
    obtain ⟨bs, hbs⟩ := exists_forall₂ fun a' ha' => h a' (List.mem_cons_of_mem _ ha')
    exact ⟨b :: bs, .cons hb hbs⟩

namespace Document

theorem inOrder (d : Document) : d.location.InOrder := by
  rw [d.location_eq]
  exact Location.ofText_inOrder d.text

theorem length_location (d : Document) : d.location.length = d.text.length := by
  rw [d.location_eq, Location.ofText_length]

theorem toPosition_eq_error {d : Document} {o : Int} (h : o < 0 ∨ d.text.length < o) :
    d.location.toPosition o = .error (.ofOutOfRange (.offset o d.text.length)) := by
  rw [← d.length_location] at h ⊢
  exact Location.toPosition_eq_error h

theorem toPosition_ok {d : Document} {o : Nat} (h : o ≤ d.text.length) :
    ∃ p, d.location.toPosition o = .ok p := by
  rw [← d.length_location] at h
  obtain ⟨p, hp, -⟩ := Location.exists_toPosition d.inOrder h
  exact ⟨p, hp⟩

theorem rangeOf_eq_error {d : Document} {s : Span} (h : d.text.length < s.stop) :
    d.rangeOf s = .error (.ofOutOfRange
      (.offset (if d.text.length < s.start then s.start else s.stop) d.text.length)) := by
  unfold rangeOf
  split_ifs with hstart
  · rw [toPosition_eq_error (.inr (by omega))]
    rfl
  · obtain ⟨p, hp⟩ := toPosition_ok (d := d) (o := s.start) (by omega)
    rw [hp, toPosition_eq_error (.inr (by omega))]
    rfl

theorem place_of_within {d : Document} {w : Locatable}
    (h : w.Within d.location.length) :
    ∃ position range, d.place w = .ok (position, range)
      ∧ Located d.location position range := by
  cases h with
  | offset ho =>
    obtain ⟨p, hp, -, hself⟩ := Location.exists_toPosition d.inOrder ho
    refine ⟨some p, none, ?_, ⟨p, rfl, hself⟩, fun r hr => by cases hr⟩
    simp only [place, hp]
  | node hs hstop parent =>
    rename_i n s
    obtain ⟨p, hp, hpo, hp'⟩ := Location.exists_toPosition d.inOrder
      (Nat.le_trans s.start_le_stop hstop)
    obtain ⟨q, hq, hqo, hq'⟩ := Location.exists_toPosition d.inOrder hstop
    have hle : p.offset ≤ q.offset := by
      rw [hpo, hqo]
      exact s.start_le_stop
    refine ⟨some p, some ⟨p, q⟩, ?_, ⟨p, rfl, hp'⟩, fun r hr => ?_⟩
    · have hrange : d.rangeOf s = .ok ⟨p, q⟩ := by
        rw [rangeOf, hp, hq]
        rfl
      simp only [place, anchor, hs, hrange]
    · cases hr
      exact ⟨rfl, hp', hq', hle, Location.le_of_offset_le d.inOrder hp' hq' hle⟩

end Document

namespace Sink

theorem report_of_within {s : Sink} {r : Report}
    (h : r.place.Within s.document.location.length) :
    ∃ x, s.report r = .ok (x, { s with diagnostics := s.diagnostics.push x })
      ∧ x.message = r.message ∧ s.Marks x := by
  obtain ⟨position, range, hplace, hlocated⟩ := s.document.place_of_within h
  refine ⟨⟨r.message, position, range, s.ruleId, s.source, s.severity⟩, ?_, rfl, rfl, rfl, rfl,
    hlocated⟩
  unfold report diagnose
  rw [hplace]
  rfl

/-- Reports within the text are all recorded in order, each as a diagnostic with the marks of the
sink. -/
theorem reportAll_of_within :
    ∀ {rs : List Report} {s : Sink}, (∀ r ∈ rs, r.place.Within s.document.location.length) →
      ∃ xs : List Diagnostic,
        s.reportAll rs = ({ s with diagnostics := s.diagnostics ++ xs }, none)
        ∧ xs.map (·.message) = rs.map (·.message) ∧ ∀ x ∈ xs, s.Marks x
  | [], s, _ => ⟨[], by simp [reportAll], rfl, fun x hx => by cases hx⟩
  | r :: rs, s, h => by
    obtain ⟨x, hx, hmessage, hmarks⟩ := report_of_within (h r List.mem_cons_self)
    obtain ⟨xs, hxs, hmessages, hall⟩ := reportAll_of_within
      (s := { s with diagnostics := s.diagnostics.push x })
      fun r' hr' => h r' (List.mem_cons_of_mem _ hr')
    refine ⟨x :: xs, ?_, ?_, fun y hy => ?_⟩
    · simp only [reportAll, hx, hxs]
      simp
    · rw [List.map_cons, List.map_cons, hmessage, hmessages]
    · rcases List.mem_cons.1 hy with rfl | hy
      · exact hmarks
      · obtain ⟨hid, hsource, hseverity, hlocated⟩ := hall y hy
        exact ⟨hid, hsource, hseverity, hlocated⟩

/-- Reports that can be placed are recorded in order, each as the diagnostic it asks for, before
those that come after them. -/
theorem reportAll_append :
    ∀ {rs : List Report} {xs : List Diagnostic} {s : Sink},
      List.Forall₂ (fun r x => s.diagnose r = .ok x) rs xs →
      ∀ rs', s.reportAll (rs ++ rs')
        = reportAll { s with diagnostics := s.diagnostics ++ xs } rs'
  | _, _, s, .nil, rs' => by simp
  | r :: rs, x :: xs, s, .cons h hs, rs' => by
    -- What a sink answers does not depend on what it holds.
    have ih := reportAll_append (s := { s with diagnostics := s.diagnostics.push x }) hs rs'
    simp only [List.cons_append, reportAll, report, h, Except.map, ih]
    simp

theorem reportAll_of_forall₂ {rs : List Report} {xs : List Diagnostic} {s : Sink}
    (h : List.Forall₂ (fun r x => s.diagnose r = .ok x) rs xs) :
    s.reportAll rs = ({ s with diagnostics := s.diagnostics ++ xs }, none) := by
  have happend := reportAll_append h []
  rwa [List.append_nil] at happend

end Sink

/-- What a check finds within the text is recorded as a whole. -/
theorem Findings.record_of_within {f : Findings} {s : Sink}
    (h : f.Within s.document.location.length) :
    ∃ xs : List Diagnostic,
      f.record s = ({ s with diagnostics := s.diagnostics ++ xs }, none)
      ∧ xs.map (·.message) = f.reports.map (·.message) ∧ ∀ x ∈ xs, s.Marks x := by
  obtain ⟨xs, hxs, hmessages, hall⟩ := Sink.reportAll_of_within h.reports
  refine ⟨xs, ?_, hmessages, hall⟩
  simp only [record, hxs, h.ending]

/-- Reports that can be placed do not change what is recorded of those after them. -/
theorem Findings.record_append {f : Findings} {rs : List Report} {xs : List Diagnostic} {s : Sink}
    (h : List.Forall₂ (fun r x => s.diagnose r = .ok x) rs xs) :
    record { f with reports := rs ++ f.reports } s
      = f.record { s with diagnostics := s.diagnostics ++ xs } := by
  simp only [record, Sink.reportAll_append h]

/-- A rule that reads a setting, and whose check comes to its end with reports that can be placed,
records them all. -/
theorem Rule.run_make {α : Type} {serial : Nat} {id description : String}
    {readOption : Value → Except OptionError α} {toValue : α → Value}
    {check : α → Document → Findings} {s : Sink} {setting : Value} {option : α}
    {xs : List Diagnostic} (hread : readOption setting = .ok option)
    (hending : (check option s.document).ending = none)
    (hxs : List.Forall₂ (fun r x => s.diagnose r = .ok x) (check option s.document).reports xs) :
    (make serial id description readOption toValue check).run s setting
      = ({ s with diagnostics := s.diagnostics ++ xs }, none) := by
  have hrecord : (check option s.document).record s
      = ({ s with diagnostics := s.diagnostics ++ xs }, none) := by
    simp only [Findings.record, Sink.reportAll_of_forall₂ hxs, hending]
  simp only [run, configure, make, hread, Except.map, Except.mapError, hrecord, Option.map_none]

end MarkdownLint
