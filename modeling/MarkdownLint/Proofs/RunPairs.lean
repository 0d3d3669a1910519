import MarkdownLint.Proofs.Blocks

/-!
# Two runs of a rule

Two sinks match on two reports if they answer them in the same way, up to a change of diagnostics
(`Sink.Matches`).  If they match report by report, then they do after all the reports of a check
(`Findings.record_of_matches`), and an entry that runs the rule on one comes to what it comes to on
the other (`outcome_of_matches`).  The sinks may differ in their documents or in their marks.
-/

namespace MarkdownLint

/-- Two sinks answer two reports in the same way, up to a change of diagnostics. -/
def Sink.Matches (f : Diagnostic → Diagnostic) (s t : Sink) (r q : Report) : Prop :=
  t.diagnose q = (s.diagnose r).map f

variable {f : Diagnostic → Diagnostic} {s t : Sink}

theorem Sink.reportAll_of_matches :
    ∀ {rs qs : List Report} {s t : Sink}, t.diagnostics = s.diagnostics.map f →
      List.Forall₂ (Matches f s t) rs qs →
      (t.reportAll qs).2 = (s.reportAll rs).2
        ∧ (t.reportAll qs).1.diagnostics = (s.reportAll rs).1.diagnostics.map f
  | _, _, _, _, hst, .nil => ⟨rfl, hst⟩
  | r :: rs, q :: qs, s, t, hst, .cons h hs => by
    unfold Matches at h
    rcases hr : s.diagnose r with e | x <;> rw [hr] at h <;> simp only [Except.map] at h
    · simp only [reportAll, report, hr, h, Except.map]
      exact ⟨trivial, hst⟩
    · have hpush : t.diagnostics.push (f x) = (s.diagnostics.push x).map f := by
        simp [hst]
      -- What a sink answers does not depend on what it holds.
      have ih := reportAll_of_matches (s := { s with diagnostics := s.diagnostics.push x })
        (t := { t with diagnostics := t.diagnostics.push (f x) }) hpush hs
      simpa only [reportAll, report, hr, h, Except.map] using ih

theorem Findings.record_of_matches {a b : Findings} (hst : t.diagnostics = s.diagnostics.map f)
    (hreports : List.Forall₂ (s.Matches f t) a.reports b.reports) (hending : b.ending = a.ending) :
    (b.record t).2 = (a.record s).2
      ∧ (b.record t).1.diagnostics = (a.record s).1.diagnostics.map f := by
  obtain ⟨herror, hdiagnostics⟩ := Sink.reportAll_of_matches hst hreports
  unfold record
  rcases ht : t.reportAll b.reports with ⟨t', _ | e⟩ <;>
    rcases hs : s.reportAll a.reports with ⟨s', _ | e'⟩ <;>
    rw [ht, hs] at herror hdiagnostics <;> simp only [reduceCtorEq, Option.some.injEq] at herror
  · exact ⟨hending, hdiagnostics⟩
  · exact ⟨by rw [herror], hdiagnostics⟩

theorem Rule.run_of_matches {r : Rule} {setting : Value}
    (hst : t.diagnostics = s.diagnostics.map f)
    (h : ∀ prepared, r.prepare setting = .ok prepared →
      List.Forall₂ (s.Matches f t) (prepared.check s.document).reports
          (prepared.check t.document).reports
        ∧ (prepared.check t.document).ending = (prepared.check s.document).ending) :
    (r.run t setting).2 = (r.run s setting).2
      ∧ (r.run t setting).1.diagnostics = (r.run s setting).1.diagnostics.map f := by
  unfold run configure
  rcases hprepare : r.prepare setting with e | prepared
  · exact ⟨rfl, hst⟩
  · obtain ⟨hreports, hending⟩ := h prepared hprepare
    obtain ⟨herror, hdiagnostics⟩ := Findings.record_of_matches hst hreports hending
    simp only [Except.mapError, herror]
    exact ⟨trivial, hdiagnostics⟩

/-- An outcome with its diagnostics changed one by one. -/
def EntryOutcome.map (f : Diagnostic → Diagnostic) : EntryOutcome → EntryOutcome
  | failed e => failed e
  | off => off
  | reported ds => reported (ds.map f)

theorem EntryOutcome.map_id (o : EntryOutcome) : o.map id = o := by
  cases o <;> simp [map]

/-- What an entry comes to once its rule has run. -/
def Rule.outcome (r : Rule) (s : Sink) (setting : Value) : EntryOutcome :=
  match r.run s setting with
  | (_, some e) => .failed e
  | (t, none) => .reported t.diagnostics.toList

theorem Rule.outcome_of_matches {r : Rule} {setting : Value}
    (hst : t.diagnostics = s.diagnostics.map f)
    (h : ∀ prepared, r.prepare setting = .ok prepared →
      List.Forall₂ (s.Matches f t) (prepared.check s.document).reports
          (prepared.check t.document).reports
        ∧ (prepared.check t.document).ending = (prepared.check s.document).ending) :
    r.outcome t setting = (r.outcome s setting).map f := by
  obtain ⟨herror, hdiagnostics⟩ := run_of_matches hst h
  unfold outcome
  rcases ht : r.run t setting with ⟨t', _ | e⟩ <;> rcases hs : r.run s setting with ⟨s', _ | e'⟩ <;>
    rw [ht, hs] at herror hdiagnostics <;> simp only [reduceCtorEq, Option.some.injEq] at herror
  · simp only at hdiagnostics
    simp only [EntryOutcome.map, hdiagnostics, Array.toList_map]
  · simp only [EntryOutcome.map, herror]

theorem Registry.runEntry_on {g : Registry} {d : Document} {id : String} {setting option : Value}
    {r : Rule} {severity : Severity} (hget : g.get id = .ok r)
    (hsplit : splitSetting id setting = .ok (.on severity option)) :
    g.runEntry d id setting = r.outcome (r.sink d severity) option := by
  unfold runEntry
  simp only [hget, hsplit]
  rfl

end MarkdownLint
