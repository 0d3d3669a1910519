import MarkdownLint.Proofs.Blocks
import MarkdownLint.Proofs.MissingBlanks

/-!
# Spans that exceed the text

The spans of a tree may end past the text.  The rule on blank lines then stops at the first path,
in the order of the walk, at which it asks for an offset past the text (`FirstExceeds`): the paths
before add a diagnostic or nothing (`record_silent`), and what comes after is not looked at
(`record_of_exceeds`).  The error shows the offset, unless that is too long to be written
(`overrun`).  In a run of several rules it is the one failure of the entry, and the diagnostics
that the rule has recorded before are lost (`run_exceeds`).
-/

namespace MarkdownLint

theorem Findings.record_cons (r : Report) (f : Findings) (s : Sink) :
    (f.cons r).record s = match s.report r with
      | .ok (_, t) => f.record t
      | .error e => (s, some (.report e)) := by
  simp only [record, cons, Sink.reportAll]
  rcases s.report r with e | ⟨x, t⟩ <;> rfl

namespace BlankLines

/-- The offset past the text that is asked for at the first path at which one is. -/
def FirstExceeds (o : BlankLineOptions) (d : Document) (off : Nat) : Prop :=
  ∃ p, Exceeds o d p off ∧ ∀ q < p, ∀ off', ¬ Exceeds o d q off'

/-- The error of a run that stops at an offset. -/
def overrun (d : Document) (off : Nat) : RuleError :=
  .check (.report (.location (if isWritable off then .outOfRange (.offset off d.text.length)
    else .integerTooLong)))

section Records

variable {o : BlankLineOptions} {s : Sink} {p : List Nat}

theorem report_of_past {next : Node} {b : Span} (hb : next.span = some b)
    (hstart : b.start ≤ s.document.text.length) (hstop : s.document.text.length < b.stop) :
    s.report ⟨message, .node next none⟩
      = .error (.location (.ofOutOfRange (.offset b.stop s.document.text.length))) := by
  have hrange := Document.rangeOf_eq_error hstop
  rw [if_neg (by omega)] at hrange
  simp only [Sink.report, Sink.diagnose, Document.place, Document.anchor, hb, hrange, Except.map]

/-- At a path where an offset past the text is asked for, recording stops. -/
theorem record_of_exceeds {v : Visit} {off : Nat}
    (hv : s.document.tree.visit? none none p = some v) (h : Exceeds o s.document p off)
    (vs : List Visit) :
    ((findings o s.document (v :: vs)).record s).2
      = some (.report (.location (.ofOutOfRange (.offset off s.document.text.length)))) := by
  rcases findings_step (o := o) hv with
    ⟨hnone, -, -⟩ | ⟨next, ⟨a, b, hcompares, hadjacent⟩, hstep⟩ | ⟨off', h', hstep⟩
  · exact absurd h (hnone off)
  · obtain ⟨hstop, hstart⟩ := hadjacent.le_length
    obtain ⟨hpast, rfl⟩ : s.document.text.length < b.stop ∧ off = b.stop := by
      rw [hcompares.exceeds_iff] at h
      omega
    rw [hstep, Findings.record_cons, report_of_past hcompares.next_span hstart hpast]
  · obtain rfl := h.unique h'
    rw [hstep]
    rfl

theorem Reports.exists_diagnosed {next : Node} (h : Reports o s.document p next)
    (hnone : ∀ off, ¬ Exceeds o s.document p off) :
    ∃ x, Diagnosed s next x ∧ s.diagnose ⟨message, .node next none⟩ = .ok x := by
  obtain ⟨a, b, hcompares, hadjacent⟩ := h
  have hstop : b.stop ≤ s.document.text.length := by
    by_contra hpast
    exact hnone _ (.next_stop hcompares hadjacent (by omega))
  rw [← s.document.length_location] at hstop
  exact BlankLines.exists_diagnosed hcompares.next_span hstop

/-- Paths at which no offset past the text is asked for add one diagnostic for each next child that
is reported, in order. -/
theorem record_silent (ps : List (List Nat)) (hps : ∀ p ∈ ps, p ∈ s.document.tree.paths)
    (hnone : ∀ p ∈ ps, ∀ off, ¬ Exceeds o s.document p off) :
    ∃ (places : List (List Nat × Node)) (xs : List Diagnostic),
      (places.map (·.1)).Sublist ps
      ∧ (∀ p next, (p, next) ∈ places ↔ p ∈ ps ∧ Reports o s.document p next)
      ∧ List.Forall₂ (fun place x => Diagnosed s place.2 x) places xs
      ∧ ∀ vs, (findings o s.document
          (ps.filterMap (s.document.tree.visit? none none) ++ vs)).record s
        = (findings o s.document vs).record { s with diagnostics := s.diagnostics ++ xs } := by
  obtain ⟨places, hsublist, hmem, hfindings⟩ := findings_silent ps hps hnone
  have hplaced : ∀ place ∈ places, ∃ x, Diagnosed s place.2 x
      ∧ s.diagnose ⟨message, .node place.2 none⟩ = .ok x := by
    rintro ⟨p, next⟩ hplace
    obtain ⟨hp, hreports⟩ := (hmem p next).1 hplace
    exact hreports.exists_diagnosed (hnone p hp)
  obtain ⟨xs, hxs⟩ := exists_forall₂ hplaced
  refine ⟨places, xs, hsublist, hmem, hxs.imp fun _ _ h => h.1, fun vs => ?_⟩
  rw [hfindings, Findings.record_append]
  rw [List.forall₂_map_left_iff]
  exact hxs.imp fun _ _ h => h.2

end Records

section Runs

variable {o : BlankLineOptions} {d : Document}

/-- Some offset past the text is asked for at a path just if the spans compared there are past the
text, up to the end of the second if they are on adjacent lines. -/
theorem exists_exceeds_iff {p : List Nat} :
    (∃ off, Exceeds o d p off)
      ↔ ∃ a next b, Compares o d.tree p a next b
        ∧ (d.text.length < b.start ∨ d.text.length < a.stop
          ∨ Adjacent d.location a b ∧ d.text.length < b.stop) := by
  constructor
  · rintro ⟨off, hexceeds⟩
    obtain ⟨a, next, b, hcompares⟩ := hexceeds.exists_compares
    refine ⟨a, next, b, hcompares, ?_⟩
    rcases hcompares.exceeds_iff.1 hexceeds with ⟨h, -⟩ | ⟨-, h, -⟩ | ⟨hadjacent, h, -⟩
    · exact .inl h
    · exact .inr (.inl h)
    · exact .inr (.inr ⟨hadjacent, h⟩)
  · rintro ⟨a, next, b, hcompares, hpast⟩
    by_cases hstart : d.text.length < b.start
    · exact ⟨_, .start hcompares hstart⟩
    rcases hpast with h | h | ⟨hadjacent, h⟩
    · exact absurd h hstart
    · exact ⟨_, .stop hcompares (by omega) h⟩
    · exact ⟨_, .next_stop hcompares hadjacent h⟩

theorem Exceeds.mem_paths {p : List Nat} {off : Nat} (h : Exceeds o d p off) :
    p ∈ d.tree.paths := by
  obtain ⟨a, next, b, hcompares⟩ := h.exists_compares
  exact hcompares.mem_paths

/-- A path at which an offset past the text is asked for, and none is at those before, is the
least such path. -/
theorem firstExceeds_of_append {before after : List (List Nat)} {p : List Nat} {off : Nat}
    (hpaths : d.tree.paths = before ++ p :: after) (hp : Exceeds o d p off)
    (hbefore : ∀ q ∈ before, ∀ off', ¬ Exceeds o d q off') : FirstExceeds o d off := by
  refine ⟨p, hp, fun q hlt off' hq => ?_⟩
  have hmem := hq.mem_paths
  have hincreasing := d.tree.paths_increasing
  rw [hpaths] at hmem hincreasing
  rcases List.mem_append.1 hmem with hmem | hmem
  · exact hbefore q hmem off' hq
  rcases List.mem_cons.1 hmem with rfl | hmem
  · exact lt_irrefl q hlt
  · have := (List.pairwise_cons.1 (List.pairwise_append.1 hincreasing).2.1).1 q hmem
    exact lt_asymm hlt this

theorem FirstExceeds.exists_append {off : Nat} (h : FirstExceeds o d off) :
    ∃ before p after, d.tree.paths = before ++ p :: after ∧ Exceeds o d p off
      ∧ ∀ q ∈ before, ∀ off', ¬ Exceeds o d q off' := by
  obtain ⟨p, hp, hfirst⟩ := h
  obtain ⟨before, after, hpaths⟩ := List.append_of_mem hp.mem_paths
  refine ⟨before, p, after, hpaths, hp, fun q hq off' hexceeds => ?_⟩
  have hincreasing := d.tree.paths_increasing
  rw [hpaths] at hincreasing
  have hlt := (List.pairwise_append.1 hincreasing).2.2 q hq p List.mem_cons_self
  exact hfirst q hlt off' hexceeds

theorem Exceeds.exists_first {p : List Nat} {off : Nat} (h : Exceeds o d p off) :
    ∃ off', FirstExceeds o d off' := by
  classical
  have hfound : (d.tree.paths.find? fun q => decide (∃ off, Exceeds o d q off)).isSome :=
    List.find?_isSome.2 ⟨p, h.mem_paths, decide_eq_true ⟨off, h⟩⟩
  obtain ⟨q, hq⟩ := Option.isSome_iff_exists.1 hfound
  obtain ⟨hexceeds, before, after, hpaths, hbefore⟩ := List.find?_eq_some_iff_append.1 hq
  obtain ⟨off', hexceeds⟩ := of_decide_eq_true hexceeds
  refine ⟨off', firstExceeds_of_append hpaths hexceeds fun q' hq' off'' h' => ?_⟩
  have := hbefore q' hq'
  rw [Bool.not_eq_true', decide_eq_false_iff_not] at this
  exact this ⟨off'', h'⟩

/-- No path with something to compare comes before that of the first child. -/
theorem firstExceeds_of_first_child {off : Nat} (h : Exceeds o d [0] off) :
    FirstExceeds o d off := by
  refine ⟨[0], h, fun q hlt off' h' => ?_⟩
  obtain ⟨a, next, b, hcompares⟩ := h'.exists_compares
  cases hlt with
  | nil => exact not_compares_nil hcompares
  | rel hlt => exact absurd hlt (Nat.not_lt_zero _)
  | cons hlt => cases hlt

variable {serial : Nat} {s : Sink} {setting : Value}

theorem run_eq (hread : readOption setting = .ok o) :
    (rule serial).run s setting
      = (((check o s.document).record s).1, ((check o s.document).record s).2.map .check) := by
  simp only [Rule.run, Rule.configure, rule, Rule.make, hread, Except.map, Except.mapError]

theorem check_eq (o : BlankLineOptions) (d : Document) :
    check o d = findings o d (d.tree.paths.filterMap (d.tree.visit? none none)) := by
  rw [check, d.visits_eq, Node.walk_eq_filterMap]

/-- Where no offset past the text is asked for, a run comes to its end. -/
theorem run_silent (serial : Nat) (hnone : ∀ p off, ¬ Exceeds o s.document p off) :
    ∃ (places : List (List Nat × Node)) (xs : List Diagnostic),
      (places.map (·.1)).Pairwise (· < ·)
      ∧ (∀ p next, (p, next) ∈ places ↔ Reports o s.document p next)
      ∧ List.Forall₂ (fun place x => Diagnosed s place.2 x) places xs
      ∧ ∀ setting, readOption setting = .ok o →
        (rule serial).run s setting = ({ s with diagnostics := s.diagnostics ++ xs }, none) := by
  obtain ⟨places, xs, hsublist, hplaces, hxs, hrecord⟩ :=
    record_silent (o := o) s.document.tree.paths (fun p hp => hp) fun p _ => hnone p
  have hcheck := hrecord []
  rw [List.append_nil, ← check_eq] at hcheck
  refine ⟨places, xs, s.document.tree.paths_increasing.sublist hsublist, fun p next => ?_, hxs,
    fun setting hread => ?_⟩
  · rw [hplaces, and_iff_right_of_imp]
    rintro ⟨a, b, hcompares, -⟩
    exact hcompares.mem_paths
  · rw [run_eq hread, hcheck]
    rfl

theorem run_of_firstExceeds (hread : readOption setting = .ok o) {off : Nat}
    (h : FirstExceeds o s.document off) :
    ((rule serial).run s setting).2 = some (overrun s.document off) := by
  obtain ⟨before, p, after, hpaths, hp, hbefore⟩ := h.exists_append
  obtain ⟨v, hv⟩ := Node.exists_visit? hp.mem_paths
  have hmem : ∀ q ∈ before, q ∈ s.document.tree.paths := by
    intro q hq
    rw [hpaths]
    exact List.mem_append_left _ hq
  obtain ⟨places, xs, -, -, -, hrecord⟩ := record_silent before hmem hbefore
  rw [run_eq hread, check_eq, hpaths, List.filterMap_append, List.filterMap_cons_some hv, hrecord,
    record_of_exceeds (s := { s with diagnostics := s.diagnostics ++ xs }) hv hp, Option.map_some,
    LocationError.ofOutOfRange_offset]
  rfl

theorem run_eq_some_iff (hread : readOption setting = .ok o) {e : RuleError} :
    ((rule serial).run s setting).2 = some e
      ↔ ∃ off, FirstExceeds o s.document off ∧ e = overrun s.document off := by
  constructor
  · intro he
    by_cases hexceeds : ∃ p off, Exceeds o s.document p off
    · obtain ⟨p, off, hp⟩ := hexceeds
      obtain ⟨off', hfirst⟩ := hp.exists_first
      rw [run_of_firstExceeds hread hfirst] at he
      exact ⟨off', hfirst, (Option.some.inj he).symm⟩
    · obtain ⟨places, xs, -, -, -, hrun⟩ := run_silent (o := o) (s := s) serial
        fun p off h => hexceeds ⟨p, off, h⟩
      rw [hrun setting hread] at he
      cases he
  · rintro ⟨off, hfirst, rfl⟩
    exact run_of_firstExceeds hread hfirst

theorem kind_overrun (d : Document) (off : Nat) :
    (overrun d off).kind = if isWritable off then "OutOfRangeError" else "ValueError" := by
  unfold overrun
  split_ifs <;> rfl

theorem runEntry_of_firstExceeds {g : Registry} {id : String} {severity : Severity}
    {option : Value} {off : Nat} (hget : g.get id = .ok (rule serial))
    (hsplit : splitSetting id setting = .ok (.on severity option))
    (hread : readOption option = .ok o) (h : FirstExceeds o d off) :
    g.runEntry d id setting = .failed (overrun d off) := by
  have hrun : ((rule serial).run ((rule serial).sink d severity) option).2
      = some (overrun d off) := run_of_firstExceeds hread h
  simp only [Registry.runEntry, hget, hsplit]
  rw [Rule.sink] at hrun
  rcases hresult : (rule serial).run _ option with ⟨t, _ | e⟩ <;> rw [hresult] at hrun
  · cases hrun
  · cases hrun
    rfl

end Runs

/-- Both options can be asked for.  The rule fails just if two spans that are compared are past the
text, up to the end of the second if they are on adjacent lines; the error is that of the first
offset past the text that is asked for, which is out of range or, if that is too long to be
written, an integer that is.  In a run of entries with different ids that is the one failure of the
rule's entry, and there is no diagnostic of the rule. -/
theorem run_exceeds (serial : Nat) (d : Document) (o : BlankLineOptions) :
    (∃ setting, readOption setting = .ok o)
    ∧ (∀ (s : Sink) (setting : Value), s.document = d → readOption setting = .ok o →
      ((∃ e, ((rule serial).run s setting).2 = some e)
        ↔ ∃ p a next b, Compares o d.tree p a next b
          ∧ (d.text.length < b.start ∨ d.text.length < a.stop
            ∨ Adjacent d.location a b ∧ d.text.length < b.stop))
      ∧ ∀ e, ((rule serial).run s setting).2 = some e
        ↔ ∃ off, FirstExceeds o d off ∧ e = overrun d off)
    ∧ (∀ off, (overrun d off).kind = if isWritable off then "OutOfRangeError" else "ValueError")
    ∧ ∀ (g : Registry) (c : Option Configuration) (id : String) (setting : Value)
        (severity : Severity) (option : Value) (off : Nat),
      g.get id = .ok (rule serial) → ((c.getD g.defaultConfiguration).map (·.1)).Nodup →
      (id, setting) ∈ c.getD g.defaultConfiguration →
      splitSetting id setting = .ok (.on severity option) → readOption option = .ok o →
      FirstExceeds o d off →
        (g.lint d c).diagnostics.filter (·.ruleId = some id) = []
        ∧ (g.lint d c).failures.filter (·.ruleId = id)
          = [{ ruleId := id, errorType := (overrun d off).kind,
               message := (overrun d off).message }] := by
  refine ⟨⟨.blankLines o, rfl⟩, ?_, kind_overrun d, ?_⟩
  · rintro s setting rfl hread
    refine ⟨?_, fun e => run_eq_some_iff hread⟩
    simp only [run_eq_some_iff hread, ← exists_exceeds_iff]
    constructor
    · rintro ⟨-, off, ⟨p, hp, -⟩, -⟩
      exact ⟨p, off, hp⟩
    · rintro ⟨p, off, hp⟩
      obtain ⟨off', hfirst⟩ := hp.exists_first
      exact ⟨_, off', hfirst, rfl⟩
  · intro g c id setting severity option off hget hnodup hentry hsplit hread hfirst
    have hlint : g.lint d c = g.lint d (some (c.getD g.defaultConfiguration)) := rfl
    obtain ⟨hfailures, hdiagnostics⟩ := Registry.lint_share (g := g) (d := d) hnodup hentry
    rw [runEntry_of_firstExceeds hget hsplit hread hfirst] at hfailures hdiagnostics
    rw [hlint]
    exact ⟨hdiagnostics, hfailures⟩

/-- A text with two paragraphs in a generated root. -/
def twoParagraphs (text : String) (a b : Span) : Document where
  text
  tree := ⟨2, "root", [⟨0, "paragraph", [], some a, none, []⟩,
    ⟨1, "paragraph", [], some b, none, []⟩], none, none, []⟩

theorem compares_twoParagraphs (text : String) (a b : Span) :
    Compares ⟨false⟩ (twoParagraphs text a b).tree [0] a ⟨1, "paragraph", [], some b, none, []⟩ b :=
  @Compares.mk _ _ [] 0 _ _ _ _ _ rfl rfl rfl rfl rfl nofun (by simp [blockTypes])

/-- Two paragraphs on adjacent lines, of which the second ends past the text: a run of the rule
alone, and one of both rules in which it is an error. -/
theorem run_exceeds_adjacent :
    ∃ d : Document, d = twoParagraphs "a\nb" ⟨0, 1, by decide⟩ ⟨2, 9, by decide⟩
      ∧ readOption .null = .ok ⟨false⟩
      ∧ ((rule 1).run { document := d } .null).2 = some (overrun d 9)
      ∧ Registry.builtIn.get "no-missing-blank-lines" = .ok (rule 1)
      ∧ splitSetting "no-missing-blank-lines" (.list [.text "error"]) = .ok (.on .error .null)
      ∧ FirstExceeds ⟨false⟩ d 9
      ∧ (Registry.builtIn.lint d (some [("linebreak-style", .null),
            ("no-missing-blank-lines", .list [.text "error"])])).failures.filter
          (·.ruleId = "no-missing-blank-lines")
        = [{ ruleId := "no-missing-blank-lines", errorType := "OutOfRangeError",
             message := "Offset 9 is outside the document (0..3)" }] := by
  refine ⟨_, rfl, rfl, ?_⟩
  generalize hd : twoParagraphs "a\nb" ⟨0, 1, by decide⟩ ⟨2, 9, by decide⟩ = d
  have hlength : d.text.length = 3 := by rw [← hd]; rfl
  have hfirst : FirstExceeds ⟨false⟩ d 9 := by
    subst hd
    have hadjacent : Adjacent (twoParagraphs "a\nb" ⟨0, 1, by decide⟩ ⟨2, 9, by decide⟩).location
        ⟨0, 1, by decide⟩ ⟨2, 9, by decide⟩ :=
      ⟨{ line := 1, column := 2, offset := 1 }, { line := 2, column := 1, offset := 2 },
        by decide +kernel, by decide +kernel, rfl⟩
    exact firstExceeds_of_first_child
      (.next_stop (compares_twoParagraphs _ _ _) hadjacent (by decide))
  have hwritable : isWritable (9 : Nat) := by
    rw [isWritable, decide_eq_true_eq, Int.natAbs_natCast]
    exact Nat.lt_of_lt_of_le (by decide : 9 < 10 ^ 1) (Nat.pow_le_pow_right (by decide) (by decide))
  have herror : overrun d 9 = .check (.report (.location (.outOfRange (.offset 9 3)))) := by
    rw [overrun, if_pos hwritable, hlength]
    rfl
  obtain ⟨-, hrun, -, hlint⟩ := run_exceeds 1 d ⟨false⟩
  have hentry := hlint Registry.builtIn
    (some [("linebreak-style", .null), ("no-missing-blank-lines", .list [.text "error"])])
    "no-missing-blank-lines" (.list [.text "error"]) .error .null 9 rfl (by decide)
    (List.mem_cons_of_mem _ List.mem_cons_self) rfl rfl hfirst
  refine ⟨((hrun { document := d } .null rfl rfl).2 _).2 ⟨9, hfirst, rfl⟩, rfl, rfl, hfirst, ?_⟩
  rw [hentry.2, herror]
  decide +kernel

/-- The second of two paragraphs begins past the text, so far that the error cannot show the
offset: it is not said to be out of range. -/
theorem run_exceeds_long :
    ∃ (d : Document) (p : List Nat) (a : Span) (next : Node) (b : Span),
      d.text = "a" ∧ Compares ⟨false⟩ d.tree p a next b ∧ b.start = 10 ^ mostDigits
      ∧ d.text.length < b.start
      ∧ ∃ e, ((rule 1).run { document := d } .null).2 = some e ∧ e.kind = "ValueError"
        ∧ e.kind ≠ "OutOfRangeError" := by
  have hpos := one_lt_tenPow
  generalize hoffset : 10 ^ mostDigits = offset at hpos
  have hlong : ¬ isWritable offset := hoffset ▸ not_isWritable_tenPow
  let d : Document := twoParagraphs "a" ⟨0, 1, by decide⟩ ⟨offset, offset, Nat.le_refl offset⟩
  have hcompares : Compares ⟨false⟩ d.tree [0] _ _ _ := compares_twoParagraphs _ _ _
  have hlength : "a".length = 1 := by decide
  have hpast : d.text.length < offset := hlength.trans_lt hpos
  have hrun : ((rule 1).run { document := d } .null).2 = some (overrun d offset) :=
    run_of_firstExceeds rfl (firstExceeds_of_first_child (.start hcompares hpast))
  refine ⟨d, [0], _, _, _, rfl, hcompares, rfl, hpast, _, hrun, ?_⟩
  rw [kind_overrun, if_neg hlong]
  decide

end BlankLines

end MarkdownLint
