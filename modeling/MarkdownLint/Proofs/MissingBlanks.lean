import MarkdownLint.Proofs.Comparisons

/-!
# Blank lines that are missing

The rule on blank lines is about the places of a tree and the line ends of the text: a blank line
is missing at a place if the next child of the parent is a block there and just one line end stops
between the two (`Missing`).  Within the text this is where the rule finds the next child on the
line after the node (`missing_iff_reports`), so the findings are those of the paths at which a
blank line is missing (`findings_paths`), and a run reports just these in the order of the walk
(`run_missing`).
-/

namespace MarkdownLint.BlankLines

/-- At the end of a path there is a node with a span, and the next child of its parent is a block
with a span, between which and the node one line end stops and no other. -/
inductive Missing (o : BlankLineOptions) (cs : List Char) (t : Node) : List Nat → Node → Prop
  | mk {path : List Nat} {i : Nat} {parent node next : Node} {a b : Span}
      (parent_eq : t.follow? path = some parent)
      (node_eq : parent.children[i]? = some node)
      (next_eq : parent.children[i + 1]? = some next)
      (node_span : node.span = some a)
      (next_span : next.span = some b)
      (not_excepted : o.exceptTightLists → parent.type ≠ tightContainer)
      (block : next.type ∈ blockTypes)
      (line_end : ∃! e, EndsAt cs e ∧ a.stop < e ∧ e ≤ b.start) :
    Missing o cs t (path ++ [i]) next

variable {o : BlankLineOptions} {cs : List Char} {t : Node}

theorem missing_iff {p : List Nat} {next : Node} :
    Missing o cs t p next
      ↔ ∃ a b, Compares o t p a next b ∧ ∃! e, EndsAt cs e ∧ a.stop < e ∧ e ≤ b.start := by
  constructor
  · rintro ⟨hparent, hnode, hnext, ha, hb, hexcepted, hblock, hend⟩
    exact ⟨_, _, ⟨hparent, hnode, hnext, ha, hb, hexcepted, hblock⟩, hend⟩
  · rintro ⟨a, b, ⟨hparent, hnode, hnext, ha, hb, hexcepted, hblock⟩, hend⟩
    exact ⟨hparent, hnode, hnext, ha, hb, hexcepted, hblock, hend⟩

theorem Missing.mem_paths {p : List Nat} {next : Node} (h : Missing o cs t p next) :
    p ∈ t.paths := by
  obtain ⟨a, b, hcompares, -⟩ := missing_iff.1 h
  exact hcompares.mem_paths

/-- The line end stops behind the one node and not behind the start of the other, so that is
behind the one as well. -/
theorem Missing.stop_lt_start {path : List Nat} {i : Nat} {parent node next next' : Node}
    {a b : Span} (h : Missing o cs t (path ++ [i]) next') (hparent : t.follow? path = some parent)
    (hnode : parent.children[i]? = some node) (hnext : parent.children[i + 1]? = some next)
    (ha : node.span = some a) (hb : next.span = some b) : a.stop < b.start := by
  obtain ⟨a', b', hcompares, e, ⟨-, hlt, hle⟩, -⟩ := missing_iff.1 h
  obtain ⟨hfollowing, ha', hb'⟩ := (compares_snoc_iff hparent hnode).1 hcompares
  obtain ⟨-, -, hnext', -⟩ := following?_child_iff.1 hfollowing
  obtain rfl := Option.some.inj (hnext.symm.trans hnext')
  obtain rfl := Option.some.inj (ha.symm.trans ha')
  obtain rfl := Option.some.inj (hb.symm.trans hb')
  exact Nat.lt_of_lt_of_le hlt hle

section Findings

variable {d : Document}

/-- Within the text, a blank line is missing where the spans that are compared are on adjacent
lines. -/
theorem missing_iff_reports (hd : d.tree.EndsBy d.text.length) {p : List Nat} {next : Node} :
    Missing o d.text.toList d.tree p next ↔ Reports o d p next := by
  rw [missing_iff, Reports]
  refine exists_congr fun a => exists_congr fun b => and_congr_right fun hcompares => ?_
  obtain ⟨ha, hb⟩ := hcompares.stop_le hd
  exact (adjacent_iff ha (b.start_le_stop.trans hb)).symm

/-- The findings at the places of some paths of a tree are those at which a blank line is missing,
in order. -/
theorem findings_paths (hd : d.tree.EndsBy d.location.length) (ps : List (List Nat))
    (hps : ∀ p ∈ ps, p ∈ d.tree.paths) :
    ∃ places : List (List Nat × Node), (places.map (·.1)).Sublist ps
      ∧ (∀ p next, (p, next) ∈ places ↔ p ∈ ps ∧ Missing o d.text.toList d.tree p next)
      ∧ findings o d (ps.filterMap (d.tree.visit? none none))
        = { reports := places.map fun place => ⟨message, .node place.2 none⟩ } := by
  rw [d.length_location] at hd
  obtain ⟨places, hsublist, hmem, hfindings⟩ :=
    findings_silent (o := o) ps hps fun p _ => not_exceeds_of_endsBy hd
  refine ⟨places, hsublist, fun p next => ?_, ?_⟩
  · rw [hmem, missing_iff_reports hd]
  · have hall := hfindings []
    simpa [findings] using hall

end Findings

/-- A node has a diagnostic, under a sink, whose range is that of its span. -/
def Diagnosed (s : Sink) (n : Node) (x : Diagnostic) : Prop :=
  ∃ span start stop, n.span = some span
    ∧ s.document.location.toPosition span.start = .ok start
    ∧ s.document.location.toPosition span.stop = .ok stop
    ∧ x = { message, position := some start, range := some ⟨start, stop⟩,
            ruleId := s.ruleId, source := s.source, severity := s.severity }

theorem exists_diagnosed {s : Sink} {n : Node} {span : Span} (hspan : n.span = some span)
    (hstop : span.stop ≤ s.document.location.length) :
    ∃ x, Diagnosed s n x ∧ s.diagnose ⟨message, .node n none⟩ = .ok x := by
  obtain ⟨p, hp, -⟩ := Location.exists_toPosition s.document.inOrder
    (Nat.le_trans span.start_le_stop hstop)
  obtain ⟨q, hq, -⟩ := Location.exists_toPosition s.document.inOrder hstop
  refine ⟨_, ⟨span, p, q, hspan, hp, hq, rfl⟩, ?_⟩
  have hrange : s.document.rangeOf span = .ok ⟨p, q⟩ := by
    rw [Document.rangeOf, hp, hq]
    rfl
  simp only [Sink.diagnose, Document.place, Document.anchor, hspan, hrange, Except.map]

theorem Missing.span_of_next {p : List Nat} {next : Node} (h : Missing o cs t p next) :
    ∃ q b, t.follow? q = some next ∧ next.span = some b := by
  obtain ⟨hparent, -, hnext, -, hb, -⟩ := h
  exact ⟨_, _, Node.follow?_snoc hparent hnext, hb⟩

/-- Both options can be asked for.  Over a tree whose spans end within the text, the rule comes to
its end and adds one diagnostic for each place at which a blank line is missing, with the range of
the node that follows.  They are in the order of the paths, a path before those that go on from it
and those before the paths of later siblings, so in that of a pre-order walk.  A node that begins
no later than the one before it ends is not reported. -/
theorem run_missing (serial : Nat) (s : Sink) (o : BlankLineOptions)
    (hs : s.document.tree.EndsBy s.document.text.length) :
    let t := s.document.tree
    (∃ setting, readOption setting = .ok o)
    ∧ ∃ (places : List (List Nat × Node)) (xs : List Diagnostic),
      (places.map (·.1)).Pairwise (· < ·)
      ∧ (∀ p next, (p, next) ∈ places ↔ Missing o s.document.text.toList t p next)
      ∧ List.Forall₂ (fun place x => Diagnosed s place.2 x) places xs
      ∧ (∀ setting, readOption setting = .ok o →
        (rule serial).run s setting = ({ s with diagnostics := s.diagnostics ++ xs }, none))
      ∧ ∀ path i parent node next a b, t.follow? path = some parent →
        parent.children[i]? = some node → parent.children[i + 1]? = some next →
        node.span = some a → next.span = some b → b.start ≤ a.stop →
        ∀ next', (path ++ [i], next') ∉ places := by
  rw [← s.document.length_location] at hs
  obtain ⟨places, hsublist, hmem, hfindings⟩ :=
    findings_paths (o := o) hs s.document.tree.paths fun p hp => hp
  simp only [and_iff_right_of_imp (Missing.mem_paths (o := o))] at hmem
  have hplaced : ∀ place ∈ places, ∃ x, Diagnosed s place.2 x
      ∧ s.diagnose ⟨message, .node place.2 none⟩ = .ok x := by
    rintro ⟨p, next⟩ hplace
    obtain ⟨q, b, hq, hb⟩ := ((hmem p next).1 hplace).span_of_next
    exact exists_diagnosed hb (hs q next b hq hb)
  obtain ⟨xs, hxs⟩ := exists_forall₂ hplaced
  refine ⟨⟨.blankLines o, rfl⟩, places, xs, s.document.tree.paths_increasing.sublist hsublist,
    hmem, hxs.imp fun _ _ h => h.1, fun setting hread => ?_, ?_⟩
  · have hcheck : check o s.document
        = { reports := places.map fun place => ⟨message, .node place.2 none⟩ } := by
      rw [check, s.document.visits_eq, Node.walk_eq_filterMap, hfindings]
    refine Rule.run_make hread (by rw [hcheck]) ?_
    rw [hcheck, List.forall₂_map_left_iff]
    exact hxs.imp fun _ _ h => h.2
  · intro path i parent node next a b hparent hnode hnext ha hb hle next' hplace
    have hlt := ((hmem _ next').1 hplace).stop_lt_start hparent hnode hnext ha hb
    omega

/-- A paragraph on the second line, which a list and the root share. -/
def innerParagraph : Node := ⟨0, "paragraph", [], some ⟨3, 4, by decide⟩, none, []⟩

/-- A list with one item, whose paragraphs are on adjacent lines. -/
def tightList : Node :=
  ⟨3, "list", [⟨2, "listItem", [innerParagraph,
    ⟨1, "paragraph", [], some ⟨5, 6, by decide⟩, none, []⟩], none, none, []⟩],
    some ⟨3, 6, by decide⟩, none, []⟩

/-- A text with all kinds of line ends, and a tree with siblings behind a generated one, behind an
empty line and out of order. -/
def mixedSink : Sink where
  document := {
    text := "a\r\nb\nc\r\rd"
    tree := ⟨8, "root", [⟨4, "paragraph", [], some ⟨0, 1, by decide⟩, none, []⟩, tightList,
      ⟨5, "paragraph", [], some ⟨8, 9, by decide⟩, none, []⟩, innerParagraph,
      ⟨6, "html", [], none, none, []⟩, ⟨7, "code", [], some ⟨5, 6, by decide⟩, none, []⟩],
      none, none, []⟩ }
  ruleId := some "no-missing-blank-lines"

theorem run_missing_mixed :
    mixedSink.document.tree.EndsBy mixedSink.document.text.length
    ∧ ∃ (places : List (List Nat × Node)) (xs : List Diagnostic),
      (places.map (·.1)).Pairwise (· < ·)
      ∧ (∀ p next, (p, next) ∈ places
        ↔ Missing ⟨true⟩ mixedSink.document.text.toList mixedSink.document.tree p next)
      ∧ List.Forall₂ (fun place x => Diagnosed mixedSink place.2 x) places xs
      ∧ (rule 1).run mixedSink (.map [(.text "exceptTightLists", .bool true)])
        = ({ mixedSink with diagnostics := mixedSink.diagnostics ++ xs }, none)
      ∧ ∀ next, ([2], next) ∉ places := by
  have hends : mixedSink.document.tree.EndsBy mixedSink.document.text.length := by
    have hlength : mixedSink.document.text.length = 9 := rfl
    rw [hlength]
    simp [mixedSink, tightList, innerParagraph, Node.endsBy_mk_iff]
  obtain ⟨-, places, xs, hincreasing, hmem, hxs, hrun, hnot⟩ :=
    run_missing 1 mixedSink ⟨true⟩ hends
  refine ⟨hends, places, xs, hincreasing, hmem, hxs, hrun _ (by decide +kernel), ?_⟩
  exact hnot [] 2 _ _ _ _ _ rfl rfl rfl rfl rfl (by decide)

example : (((rule 1).run mixedSink .null).1.diagnostics.map (·.text),
      ((rule 1).run mixedSink (.blankLines ⟨true⟩)).1.diagnostics.map (·.text))
    = (#["2:1-3:2: Missing blank line before block node",
        "3:1-3:2: Missing blank line before block node"],
      #["2:1-3:2: Missing blank line before block node"]) := by
  decide +kernel

end MarkdownLint.BlankLines
