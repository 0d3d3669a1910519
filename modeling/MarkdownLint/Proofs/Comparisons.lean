import MarkdownLint.Proofs.LineEnds
import MarkdownLint.Proofs.Preorder
import MarkdownLint.Proofs.SoundRules

/-!
# Comparing a node with the next

At some places the rule on blank lines compares the span of the node with that of the next child of
the parent (`Compares`), and asks for the lines of the start of the one, of the end of the other
and, if these are adjacent, for that of the end of the next child.  The first of the offsets that
the text does not have is where it stops (`Exceeds`).  So a place adds nothing to the findings, or
adds a report of the next child, or ends them (`findings_step`), and the places at which no offset
past the text is asked for add the reports of some next children in order (`findings_silent`).
-/

namespace MarkdownLint.BlankLines

/-- At the end of a path there is a node with span `a`, and the next child of its parent is a block
with span `b`; the parent is not excepted. -/
inductive Compares (o : BlankLineOptions) (t : Node) : List Nat → Span → Node → Span → Prop
  | mk {path : List Nat} {i : Nat} {parent node next : Node} {a b : Span}
      (parent_eq : t.follow? path = some parent)
      (node_eq : parent.children[i]? = some node)
      (next_eq : parent.children[i + 1]? = some next)
      (node_span : node.span = some a)
      (next_span : next.span = some b)
      (not_excepted : o.exceptTightLists → parent.type ≠ tightContainer)
      (block : next.type ∈ blockTypes) :
    Compares o t (path ++ [i]) a next b

/-- A span begins on the line after the one on which another ends. -/
def Adjacent (l : Location) (a b : Span) : Prop :=
  ∃ p q, l.toPosition a.stop = .ok p ∧ l.toPosition b.start = .ok q ∧ q.line = p.line + 1

/-- At a path a node is compared with `next`, and that begins on the line after it. -/
def Reports (o : BlankLineOptions) (d : Document) (p : List Nat) (next : Node) : Prop :=
  ∃ a b, Compares o d.tree p a next b ∧ Adjacent d.location a b

/-- The first offset past the text that is asked for at a path: the start of the next child, or
else the end of the node or, if the two are on adjacent lines, the end of the next child. -/
inductive Exceeds (o : BlankLineOptions) (d : Document) : List Nat → Nat → Prop
  | start {p : List Nat} {a : Span} {next : Node} {b : Span}
      (compares : Compares o d.tree p a next b) (past : d.text.length < b.start) :
      Exceeds o d p b.start
  | stop {p : List Nat} {a : Span} {next : Node} {b : Span}
      (compares : Compares o d.tree p a next b) (start_le : b.start ≤ d.text.length)
      (past : d.text.length < a.stop) : Exceeds o d p a.stop
  | next_stop {p : List Nat} {a : Span} {next : Node} {b : Span}
      (compares : Compares o d.tree p a next b) (adjacent : Adjacent d.location a b)
      (past : d.text.length < b.stop) : Exceeds o d p b.stop

section Pairs

variable {o : BlankLineOptions} {t : Node}

theorem following?_child_iff {node parent next : Node} {i : Nat} :
    following? o ⟨node, some i, some parent⟩ = some next
      ↔ node.span.isSome ∧ (o.exceptTightLists → parent.type ≠ tightContainer)
        ∧ parent.children[i + 1]? = some next ∧ next.type ∈ blockTypes ∧ next.span.isSome := by
  simp [following?_eq_some_iff]

theorem compares_snoc_iff {path : List Nat} {i : Nat} {parent node next : Node} {a b : Span}
    (hparent : t.follow? path = some parent) (hnode : parent.children[i]? = some node) :
    Compares o t (path ++ [i]) a next b
      ↔ following? o ⟨node, some i, some parent⟩ = some next ∧ node.span = some a
        ∧ next.span = some b := by
  rw [following?_child_iff]
  constructor
  · intro h
    generalize hp : path ++ [i] = p at h
    obtain ⟨hparent', hnode', hnext, ha, hb, hexcepted, hblock⟩ := h
    obtain ⟨rfl, hi⟩ := List.append_inj' hp rfl
    obtain rfl : i = _ := List.head_eq_of_cons_eq hi
    obtain rfl := Option.some.inj (hparent.symm.trans hparent')
    obtain rfl := Option.some.inj (hnode.symm.trans hnode')
    exact ⟨⟨by rw [ha]; rfl, hexcepted, hnext, hblock, by rw [hb]; rfl⟩, ha, hb⟩
  · rintro ⟨⟨-, hexcepted, hnext, hblock, -⟩, ha, hb⟩
    exact ⟨hparent, hnode, hnext, ha, hb, hexcepted, hblock⟩

theorem not_compares_nil {a b : Span} {next : Node} : ¬ Compares o t [] a next b := by
  intro h
  generalize hp : ([] : List Nat) = p at h
  cases h
  exact absurd hp (List.append_ne_nil_of_right_ne_nil _ (List.cons_ne_nil _ _)).symm

variable {p : List Nat} {a b : Span} {next : Node}

theorem Compares.mem_paths (h : Compares o t p a next b) : p ∈ t.paths := by
  obtain ⟨hparent, hnode, -⟩ := h
  exact t.mem_paths.2 ⟨_, Node.follow?_snoc hparent hnode⟩

theorem Compares.unique {a' b' : Span} {next' : Node} (h : Compares o t p a next b)
    (h' : Compares o t p a' next' b') : a = a' ∧ next = next' ∧ b = b' := by
  obtain ⟨hparent, hnode, hnext, ha, hb, hexcepted, hblock⟩ := h
  obtain ⟨hfollowing, ha', hb'⟩ := (compares_snoc_iff hparent hnode).1 h'
  obtain ⟨-, -, hnext', -⟩ := following?_child_iff.1 hfollowing
  obtain rfl := Option.some.inj (hnext.symm.trans hnext')
  exact ⟨Option.some.inj (ha.symm.trans ha'), rfl, Option.some.inj (hb.symm.trans hb')⟩

/-- In a tree whose spans end within a text, those that are compared do. -/
theorem Compares.stop_le {n : Nat} (h : Compares o t p a next b) (ht : t.EndsBy n) :
    a.stop ≤ n ∧ b.stop ≤ n := by
  obtain ⟨hparent, hnode, hnext, ha, hb, -⟩ := h
  exact ⟨ht _ _ a (Node.follow?_snoc hparent hnode) ha,
    ht _ _ b (Node.follow?_snoc hparent hnext) hb⟩

theorem Compares.next_span (h : Compares o t p a next b) : next.span = some b := by
  obtain ⟨-, -, -, -, hb, -⟩ := h
  exact hb

end Pairs

section Lines

variable {d : Document} {a b : Span}

theorem Adjacent.le_length (h : Adjacent d.location a b) :
    a.stop ≤ d.text.length ∧ b.start ≤ d.text.length := by
  obtain ⟨p, q, hp, hq, -⟩ := h
  have ha := (Location.exists_toPosition_iff d.inOrder).1 ⟨p, hp⟩
  have hb := (Location.exists_toPosition_iff d.inOrder).1 ⟨q, hq⟩
  rw [d.length_location] at ha hb
  omega

/-- Spans within the text are on adjacent lines just if one line end stops between them. -/
theorem adjacent_iff (ha : a.stop ≤ d.text.length) (hb : b.start ≤ d.text.length) :
    Adjacent d.location a b ↔ ∃! e, EndsAt d.text.toList e ∧ a.stop < e ∧ e ≤ b.start := by
  rw [← d.length_location] at ha hb
  obtain ⟨i, hi⟩ := Location.exists_inLine d.inOrder ha
  obtain ⟨j, hj⟩ := Location.exists_inLine d.inOrder hb
  have hadjacent : Adjacent d.location a b ↔ j = i + 1 := by
    simp only [Adjacent, Location.toPosition_eq d.inOrder hi, Location.toPosition_eq d.inOrder hj,
      Except.ok.injEq, exists_and_left, exists_eq_left']
    omega
  rw [d.location_eq] at hi hj
  rw [hadjacent, Location.line_eq_succ_iff hi hj]

theorem isAdjacent_of_start_past {before after : Node} (hb : after.span = some b)
    (h : d.text.length < b.start) :
    isAdjacent d before after
      = .error (.report (.location (.ofOutOfRange (.offset b.start d.text.length)))) := by
  have hstart := Document.toPosition_eq_error (d := d) (o := b.start) (.inr (by omega))
  simp only [isAdjacent, Document.startLine, hb, hstart]
  rfl

theorem isAdjacent_of_stop_past {before after : Node} (ha : before.span = some a)
    (hb : after.span = some b) (hstart : b.start ≤ d.text.length) (h : d.text.length < a.stop) :
    isAdjacent d before after
      = .error (.report (.location (.ofOutOfRange (.offset a.stop d.text.length)))) := by
  obtain ⟨q, hq⟩ := Document.toPosition_ok hstart
  have hstop := Document.toPosition_eq_error (d := d) (o := a.stop) (.inr (by omega))
  simp only [isAdjacent, Document.startLine, Document.endLine, ha, hb, hq, hstop]
  rfl

end Lines

section Findings

variable {o : BlankLineOptions} {d : Document} {p : List Nat} {a b : Span} {next : Node}

theorem Reports.unique {next' : Node} (h : Reports o d p next) (h' : Reports o d p next') :
    next = next' := by
  obtain ⟨a, b, hcompares, -⟩ := h
  obtain ⟨a', b', hcompares', -⟩ := h'
  exact (hcompares.unique hcompares').2.1

theorem Exceeds.exists_compares {off : Nat} (h : Exceeds o d p off) :
    ∃ a next b, Compares o d.tree p a next b := by
  cases h with
  | start h => exact ⟨_, _, _, h⟩
  | stop h => exact ⟨_, _, _, h⟩
  | next_stop h => exact ⟨_, _, _, h⟩

/-- Where two spans are compared, the offset at which the rule stops is one of theirs. -/
theorem Compares.exceeds_iff (h : Compares o d.tree p a next b) {off : Nat} :
    Exceeds o d p off
      ↔ d.text.length < b.start ∧ off = b.start
        ∨ b.start ≤ d.text.length ∧ d.text.length < a.stop ∧ off = a.stop
        ∨ Adjacent d.location a b ∧ d.text.length < b.stop ∧ off = b.stop := by
  constructor
  · rintro (⟨h', hpast⟩ | ⟨h', hstart, hpast⟩ | ⟨h', hadjacent, hpast⟩)
    · obtain ⟨-, -, rfl⟩ := h.unique h'
      exact .inl ⟨hpast, rfl⟩
    · obtain ⟨rfl, -, rfl⟩ := h.unique h'
      exact .inr (.inl ⟨hstart, hpast, rfl⟩)
    · obtain ⟨rfl, -, rfl⟩ := h.unique h'
      exact .inr (.inr ⟨hadjacent, hpast, rfl⟩)
  · rintro (⟨hpast, rfl⟩ | ⟨hstart, hpast, rfl⟩ | ⟨hadjacent, hpast, rfl⟩)
    · exact .start h hpast
    · exact .stop h hstart hpast
    · exact .next_stop h hadjacent hpast

theorem Exceeds.unique {off off' : Nat} (h : Exceeds o d p off) (h' : Exceeds o d p off') :
    off = off' := by
  obtain ⟨a, next, b, hcompares⟩ := h.exists_compares
  rw [hcompares.exceeds_iff] at h h'
  -- Adjacent spans exclude the first two cases.
  have hadjacent := @Adjacent.le_length d a b
  grind

theorem not_exceeds_of_endsBy (hd : d.tree.EndsBy d.text.length) (off : Nat) :
    ¬ Exceeds o d p off := by
  intro h
  obtain ⟨a, next, b, hcompares⟩ := h.exists_compares
  obtain ⟨ha, hb⟩ := hcompares.stop_le hd
  have hle := b.start_le_stop
  rw [hcompares.exceeds_iff] at h
  omega

/-- What a place does to the findings of the places after it: it leaves them alone, adds a report
of the next child if that is on an adjacent line, or stands in their way. -/
theorem findings_step {v : Visit} (hv : d.tree.visit? none none p = some v) :
    ((∀ off, ¬ Exceeds o d p off)
        ∧ (∀ next, ¬ Reports o d p next)
        ∧ ∀ vs, findings o d (v :: vs) = findings o d vs)
      ∨ (∃ next, Reports o d p next
        ∧ ∀ vs, findings o d (v :: vs) = (findings o d vs).cons ⟨message, .node next none⟩)
      ∨ ∃ off : Nat, Exceeds o d p off ∧ ∀ vs, findings o d (v :: vs)
        = { ending := some (.report (.location (.ofOutOfRange (.offset off d.text.length)))) } := by
  rcases List.eq_nil_or_concat' p with rfl | ⟨path, i, rfl⟩
  · cases hv
    refine .inl ⟨fun off h => ?_, fun next ⟨a, b, h, _⟩ => not_compares_nil h, fun vs => rfl⟩
    obtain ⟨a, next, b, h⟩ := h.exists_compares
    exact not_compares_nil h
  obtain ⟨parent, node, hparent, hnode, rfl⟩ := Node.visit?_snoc_eq_some_iff.1 hv
  rcases hfollowing : following? o ⟨node, some i, some parent⟩ with _ | next
  · have hnot : ∀ a next b, ¬ Compares o d.tree (path ++ [i]) a next b := by
      intro a next b h
      have := ((compares_snoc_iff hparent hnode).1 h).1
      rw [hfollowing] at this
      cases this
    refine .inl ⟨fun off h => ?_, fun next ⟨a, b, h, _⟩ => hnot a next b h, fun vs => by
      rw [findings, hfollowing]⟩
    obtain ⟨a, next, b, h⟩ := h.exists_compares
    exact hnot a next b h
  obtain ⟨hspan, -, -, -, hspan'⟩ := following?_child_iff.1 hfollowing
  obtain ⟨a, ha⟩ := Option.isSome_iff_exists.1 hspan
  obtain ⟨b, hb⟩ := Option.isSome_iff_exists.1 hspan'
  have hcompares : Compares o d.tree (path ++ [i]) a next b :=
    (compares_snoc_iff hparent hnode).2 ⟨hfollowing, ha, hb⟩
  by_cases hstart : d.text.length < b.start
  · refine .inr (.inr ⟨_, .start hcompares hstart, fun vs => ?_⟩)
    simp only [findings, hfollowing, isAdjacent_of_start_past hb hstart]
  by_cases hstop : d.text.length < a.stop
  · refine .inr (.inr ⟨_, .stop hcompares (by omega) hstop, fun vs => ?_⟩)
    simp only [findings, hfollowing, isAdjacent_of_stop_past ha hb (by omega) hstop]
  obtain ⟨q, hq⟩ := Document.toPosition_ok (d := d) (o := a.stop) (by omega)
  obtain ⟨r, hr⟩ := Document.toPosition_ok (d := d) (o := b.start) (by omega)
  have hlines : Adjacent d.location a b ↔ r.line = q.line + 1 := by
    simp only [Adjacent, hq, hr, Except.ok.injEq, exists_and_left, exists_eq_left']
  have hcompared := isAdjacent_eq_ok ha hb hq hr
  by_cases hline : r.line = q.line + 1
  · refine .inr (.inl ⟨next, ⟨a, b, hcompares, hlines.2 hline⟩, fun vs => ?_⟩)
    simp only [findings, hfollowing, hcompared, hline, decide_true]
  · refine .inl ⟨fun off h => ?_, fun next' ⟨a', b', h, hadjacent⟩ => ?_, fun vs => ?_⟩
    · rw [hcompares.exceeds_iff, hlines] at h
      omega
    · obtain ⟨rfl, -, rfl⟩ := hcompares.unique h
      exact hline (hlines.1 hadjacent)
    · simp only [findings, hfollowing, hcompared, hline, decide_false]

/-- By induction on the paths: where no offset past the text is asked for, those add one report of
each next child on an adjacent line, in order. -/
theorem findings_silent :
    ∀ ps : List (List Nat), (∀ p ∈ ps, p ∈ d.tree.paths) → (∀ p ∈ ps, ∀ off, ¬ Exceeds o d p off) →
      ∃ places : List (List Nat × Node), (places.map (·.1)).Sublist ps
        ∧ (∀ p next, (p, next) ∈ places ↔ p ∈ ps ∧ Reports o d p next)
        ∧ ∀ vs, findings o d (ps.filterMap (d.tree.visit? none none) ++ vs)
          = { findings o d vs with
              reports := places.map (fun place => ⟨message, .node place.2 none⟩)
                ++ (findings o d vs).reports }
  | [], _, _ => ⟨[], List.Sublist.slnil, by simp, fun vs => rfl⟩
  | p :: ps, hpaths, hnone => by
    obtain ⟨places, hsublist, hmem, hfindings⟩ :=
      findings_silent ps (fun q hq => hpaths q (List.mem_cons_of_mem _ hq))
        fun q hq => hnone q (List.mem_cons_of_mem _ hq)
    obtain ⟨v, hv⟩ := Node.exists_visit? (hpaths p List.mem_cons_self)
    simp only [List.filterMap_cons_some hv, List.cons_append]
    rcases findings_step (o := o) hv with
      ⟨-, hsilent, hstep⟩ | ⟨next, hreports, hstep⟩ | ⟨off, hexceeds, -⟩
    · refine ⟨places, hsublist.cons p, fun q next => ?_, fun vs => by rw [hstep, hfindings]⟩
      rw [hmem, List.mem_cons, or_and_right, or_iff_right]
      rintro ⟨rfl, hreports⟩
      exact hsilent next hreports
    · refine ⟨(p, next) :: places, hsublist.cons_cons p, fun q next' => ?_, fun vs => ?_⟩
      · rw [List.mem_cons, List.mem_cons, Prod.mk.injEq, hmem, or_and_right]
        refine or_congr_left (and_congr_right ?_)
        rintro rfl
        exact ⟨fun h => h ▸ hreports, fun h => h.unique hreports⟩
      · rw [hstep, hfindings]
        rfl
    · exact absurd hexceeds (hnone p List.mem_cons_self off)

end Findings

end MarkdownLint.BlankLines
