import MarkdownLint.Proofs.Anchors
import MarkdownLint.Proofs.LoadCourse
import MarkdownLint.Proofs.Reports

/-!
# Anchors in loaded trees

Loading numbers its nodes one after the other, so no node stands at two places of a loaded tree
(`Source.eq_of_serial_eq`), however often the data has an entry in it.  So the way up from a node is
that from its only place, and it is anchored where loading took the bound of its children from
(`load_anchors`).  This lies within the text, so there can be a report at every node.
-/

namespace MarkdownLint

section Numbering

/-- Loading numbers the nodes it makes in pre-order. -/
theorem Source.Loads.serials {s : Source} {g : Source.Guard} {cs log log' : List Source.Place}
    {r : Except LoadError (List Node)} (h : s.Loads g cs log r log') :
    ∀ {nodes : List Node}, r = .ok nodes → ∀ (parent : Node) (i : Nat),
      (Node.preorderFrom parent i nodes).map (·.node.serial)
        = List.range' log.length (Node.sizes nodes) := by
  induction h with
  | done =>
    rintro _ ⟨⟩ _ _
    rfl
  | stopped | refused | failed | unshown => exact fun heq => nomatch heq
  | made _ _ hbelow _ _ ih iha =>
    intro nodes heq parent i
    obtain ⟨rest, hrest, rfl⟩ := except_map_eq_ok_iff.1 heq
    have hlength := hbelow.length_eq rfl
    rw [List.length_cons] at hlength
    rw [Node.preorderFrom, Node.preorder_eq, List.cons_append, List.map_cons, List.map_append,
      ih rfl, iha hrest, hlength, List.length_cons, List.range'_append_1, Node.sizes, Node.size_eq,
      Nat.add_assoc, Nat.add_comm 1, List.range'_succ]

/-- Where no serial comes up twice in the walk, no node stands at two places. -/
theorem Node.eq_of_serial_eq {t : Node} (h : (t.walk.map (·.node.serial)).Nodup) {p q : List Nat}
    {n m : Node} (hp : t.follow? p = some n) (hq : t.follow? q = some m)
    (heq : n.serial = m.serial) : p = q := by
  rw [walk_eq_filterMap, List.Nodup, List.pairwise_map, List.pairwise_filterMap] at h
  have hsymm : Std.Symm fun p q => ∀ v, t.visit? none none p = some v →
      ∀ w, t.visit? none none q = some w → v.node.serial ≠ w.node.serial :=
    ⟨fun _ _ h v hv w hw => (h w hw v hv).symm⟩
  obtain ⟨v, hv, rfl⟩ := Option.map_eq_some_iff.1 ((visit?_node p t none none).trans hp)
  obtain ⟨w, hw, rfl⟩ := Option.map_eq_some_iff.1 ((visit?_node q t none none).trans hq)
  by_contra hne
  exact h.forall (t.mem_paths.2 ⟨_, hp⟩) (t.mem_paths.2 ⟨_, hq⟩) hne v hv w hw heq

theorem Source.eq_of_serial_eq {s : Source} {root : Value} {t : Node} (h : s.load root = .ok t)
    {p q : List Nat} {n m : Node} (hp : t.follow? p = some n) (hq : t.follow? q = some m)
    (heq : n.serial = m.serial) : p = q := by
  obtain ⟨log, hloads⟩ := load_eq_iff.1 h
  have hserials : (t.preorder none none).map (·.node.serial)
      = List.range' 0 (Node.sizes [t]) := by
    have hserials := hloads.serials rfl t 0
    rw [Node.preorderFrom, Node.preorderFrom, List.append_nil, Node.preorder_eq] at hserials
    rw [Node.preorder_eq]
    exact hserials
  refine Node.eq_of_serial_eq ?_ hp hq heq
  rw [Node.walk_eq_preorder, hserials]
  exact List.nodup_range' ..

end Numbering

section Anchors

namespace Node

/-- The first span on the way up from a place is that of the node there, or else that of the
nearest node above. -/
theorem findSome?_upward {n : Node} :
    ∀ {p : List Nat} {t : Node} (above : Option Span), t.follow? p = some n →
      ((t.upward p).findSome? Node.span).or above = n.span.or (t.spanAbove above p)
  | [], t, above, hp => by
    cases hp
    rw [upward, List.findSome?_singleton, spanAbove]
  | i :: p, t, above, hp => by
    obtain ⟨c, hc, hp⟩ := follow?_cons_eq_some_iff.1 hp
    rw [upward, hc, spanAbove_cons hc, ← findSome?_upward (t.span.or above) hp,
      List.findSome?_append, List.findSome?_singleton, Option.or_assoc]

theorem exists_follow?_of_mem_upward {m : Node} :
    ∀ {p : List Nat} {t : Node}, m ∈ t.upward p → ∃ q, t.follow? q = some m
  | [], t, hm => by
    rw [upward, List.mem_singleton] at hm
    exact ⟨[], congrArg some hm.symm⟩
  | i :: p, t, hm => by
    rw [upward] at hm
    split at hm
    · rename_i c hc
      rcases List.mem_append.1 hm with hm | hm
      · obtain ⟨q, hq⟩ := exists_follow?_of_mem_upward hm
        exact ⟨i :: q, follow?_cons_eq_some_iff.2 ⟨c, hc, hq⟩⟩
      · exact ⟨[], congrArg some (List.mem_singleton.1 hm).symm⟩
    · cases hm

end Node

namespace Document

variable {d : Document}

/-- At its last place, with the parent there as a hint or with none, a node is anchored at the first
span on the way up. -/
theorem anchor_of_isLast (hid : d.tree.Identified) {p : List Nat} {v : Visit} {hint : Option Node}
    (hv : d.tree.visit? none none p = some v) (hlast : d.tree.IsLast v.node p)
    (hhint : hint = none ∨ hint = v.parent) :
    d.anchor v.node hint = (d.tree.upward p).findSome? Node.span := by
  have hlength := length_lt_of_follow? hlast.follow
  rcases hint with _ | m
  · exact anchor_of_climbs ((climbs_of_isLast hid hlast).mono (by omega))
  · have hm : v.parent = some m := (hhint.resolve_left (Option.some_ne_none m)).symm
    obtain ⟨q, i, rfl, hq, hc⟩ := Node.exists_follow?_of_visit? hv hm
    rw [Node.upward_snoc hq hc]
    rw [List.length_append, List.length_singleton] at hlength
    have hclimbs := climbs_of_isLast hid (hlast.of_snoc hq hc)
    exact anchor_of_climbs_parent (hclimbs.mono (by omega))

theorem spanPlace_of_le {bound : Option Span}
    (h : ∀ r, bound = some r → r.stop ≤ d.location.length) :
    ∃ position range, d.spanPlace bound = .ok (position, range)
      ∧ (position = none ∧ range = none ↔ bound = none)
      ∧ ∀ r, bound = some r → ∃ start stop, d.location.toPosition r.start = .ok start
        ∧ d.location.toPosition r.stop = .ok stop ∧ position = some start
        ∧ range = some ⟨start, stop⟩ := by
  rcases bound with _ | r
  · exact ⟨none, none, rfl, by simp, fun r hr => nomatch hr⟩
  · have hstop := h r rfl
    obtain ⟨start, hstart, -, -⟩ := Location.exists_toPosition d.inOrder
      (Nat.le_trans r.start_le_stop hstop)
    obtain ⟨stop, hstop, -, -⟩ := Location.exists_toPosition d.inOrder hstop
    refine ⟨some start, some ⟨start, stop⟩, ?_, by simp, fun r' hr' => ?_⟩
    · rw [spanPlace, rangeOf, hstart, hstop]
      rfl
    · cases hr'
      exact ⟨start, stop, hstart, hstop, rfl, rfl⟩

/-- A report at a node is recorded if the span it is anchored at ends within the text. -/
theorem exists_report_node {n : Node} {hint : Option Node} {sink : Sink} (hsink : sink.document = d)
    (h : ∀ r, d.anchor n hint = some r → r.stop ≤ d.location.length) (message : String) :
    ∃ x, sink.report ⟨message, .node n hint⟩
        = .ok (x, { sink with diagnostics := sink.diagnostics.push x })
      ∧ x.message = message ∧ (x.position = none ∧ x.range = none ↔ d.anchor n hint = none)
      ∧ ∀ r, d.anchor n hint = some r → ∃ start stop, d.location.toPosition r.start = .ok start
        ∧ d.location.toPosition r.stop = .ok stop ∧ x.position = some start
        ∧ x.range = some ⟨start, stop⟩ := by
  obtain ⟨position, range, hplace, hnone, hsome⟩ := spanPlace_of_le h
  refine ⟨⟨message, position, range, sink.ruleId, sink.source, sink.severity⟩, ?_, rfl, hnone,
    hsome⟩
  rw [Sink.report, Sink.diagnose, hsink, place_node, hplace]
  rfl

end Document

namespace Source

/-- At each place that loading came to there is a node of the tree, and the span that bounds its
children is the first one on the way from there up to the root. -/
theorem exists_visit_of_mem {s : Source} {g : Guard} {root : Value} {t : Node} {log : List Place}
    (h : s.Loads g [.root root] [] (.ok [t]) log) {c : Place} (hc : c ∈ log) :
    ∃ f v, s.fields c.bound c.entry = .ok f ∧ t.visit? none none c.path = some v
      ∧ f.span.or c.bound = (t.upward c.path).findSome? Node.span := by
  have hp := h.placeAt_path hc
  obtain ⟨-, f, hf⟩ := h.passed rfl _ List.mem_cons_self c.path c hp
  obtain ⟨n, hn, hspan, hbound⟩ : ∃ n, t.follow? c.path = some n ∧ n.span = s.spanOf c.entry
      ∧ c.bound = t.spanAbove none c.path := by
    obtain ⟨hmirrors, -⟩ := List.forall₂_cons.1 (h.mirrors rfl)
    have hrel := hmirrors c.path
    rw [hp] at hrel
    generalize t.follow? c.path = found at hrel ⊢
    cases hrel with
    | some hn => exact ⟨_, rfl, hn⟩
  obtain ⟨v, hv, rfl⟩ := Option.map_eq_some_iff.1 ((Node.visit?_node _ t none none).trans hn)
  refine ⟨f, v, hf, hv, ?_⟩
  rw [← spanOf_of_fields hf, ← hspan, hbound, ← Node.findSome?_upward none hn, Option.or_none]

/-- No node of a loaded tree stands at two places of it, even if the data has one entry at several.
At each place that loading came to, with the parent there as a hint or with none, the node is
anchored at the span that bounds its children, which is the first one on the way from there up to
the root.  A report at the node is recorded there, or without a place if there is no such span. -/
theorem load_anchors {limits : Limits} {collections : Array Value} {text : String} {root : Value}
    {t : Node}
    (h : load { limits, collections, location := some (.ofText text) } root = .ok t) :
    let s : Source := { limits, collections, location := some (.ofText text) }
    (∀ p q n m, t.follow? p = some n → t.follow? q = some m → n.serial = m.serial → p = q)
    ∧ ∃ log, s.Loads limits.guard [.root root] [] (.ok [t]) log
      ∧ log.reverse.map (·.path) = t.paths
      ∧ ∀ c ∈ log, ∃ f v, s.fields c.bound c.entry = .ok f ∧ t.visit? none none c.path = some v
        ∧ ∀ (d : Document) (hint : Option Node), d.text = text → d.tree = t →
          hint = none ∨ hint = v.parent →
          d.anchor v.node hint = f.span.or c.bound
          ∧ d.anchor v.node hint = (t.upward c.path).findSome? Node.span
          ∧ ∀ (sink : Sink) (message : String), sink.document = d → ∃ x,
            sink.report ⟨message, .node v.node hint⟩
              = .ok (x, { sink with diagnostics := sink.diagnostics.push x })
            ∧ x.message = message
            ∧ (x.position = none ∧ x.range = none ↔ ∀ m ∈ t.upward c.path, m.span = none)
            ∧ ∀ r, f.span.or c.bound = some r → ∃ start stop,
              d.location.toPosition r.start = .ok start ∧ d.location.toPosition r.stop = .ok stop
              ∧ x.position = some start ∧ x.range = some ⟨start, stop⟩ := by
  intro s
  have honly : ∀ p q n m, t.follow? p = some n → t.follow? q = some m → n.serial = m.serial →
      p = q := fun p q n m hp hq heq => eq_of_serial_eq h hp hq heq
  obtain ⟨log, hloads⟩ := load_eq_iff.1 h
  refine ⟨honly, log, hloads, hloads.paths_eq, fun c hc => ?_⟩
  obtain ⟨f, v, hf, hv, hbound⟩ := exists_visit_of_mem hloads hc
  refine ⟨f, v, hf, hv, fun d hint htext htree hhint => ?_⟩
  subst htext htree
  have hid : d.tree.Identified := fun p q n m hp hq heq => by
    obtain rfl := honly p q n m hp hq heq
    exact Option.some.inj (hp.symm.trans hq)
  have hn := Node.follow?_of_visit? hv
  have hlast : d.tree.IsLast v.node c.path := ⟨hn, fun q hq => (honly q _ _ _ hq hn rfl).le⟩
  have hanchor := Document.anchor_of_isLast hid hv hlast hhint
  refine ⟨hanchor.trans hbound.symm, hanchor, fun sink message hsink => ?_⟩
  have hends : ∀ r, d.anchor v.node hint = some r → r.stop ≤ d.location.length := fun r hr => by
    obtain ⟨m, hm, hmr⟩ := List.exists_of_findSome?_eq_some (hanchor.symm.trans hr)
    obtain ⟨q, hq⟩ := Node.exists_follow?_of_mem_upward hm
    rw [d.length_location]
    exact endsBy_of_load h q m r hq hmr
  obtain ⟨x, hx, hmessage, hnone, hsome⟩ := Document.exists_report_node hsink hends message
  refine ⟨x, hx, hmessage, ?_, ?_⟩
  · rw [hnone, hanchor, List.findSome?_eq_none_iff]
  · rw [hbound, ← hanchor]
    exact hsome

def mapText : Value :=
  .map [(.text "type", .text "text")]

def mapParagraph (start stop : Int) : Value :=
  .map [(.text "type", .text "paragraph"),
    (.text "position", .map [(.text "start", .map [(.text "offset", .int start)]),
      (.text "end", .map [(.text "offset", .int stop)])]),
    (.text "children", .list [.ref 0])]

/-- Two paragraphs that share a text without a position. -/
def mapParagraphs : Value :=
  .map [(.text "type", .text "root"),
    (.text "children", .list [mapParagraph 0 2, mapParagraph 3 5])]

/-- The shared text is two nodes, each anchored at the paragraph above it. -/
theorem load_anchors_paragraphs :
    ∃ t, load { collections := #[mapText], location := some (.ofText "ab\ncd") } mapParagraphs
        = .ok t
      ∧ (∀ p q n m, t.follow? p = some n → t.follow? q = some m → n.serial = m.serial → p = q)
      ∧ ∀ d : Document, d.text = "ab\ncd" → d.tree = t → ∃ n m,
        t.follow? [0, 0] = some n ∧ t.follow? [1, 0] = some m ∧ n.alike m
        ∧ d.anchor n none = some ⟨0, 2, by decide⟩ ∧ d.anchor m none = some ⟨3, 5, by decide⟩ := by
  refine ⟨⟨0, "root", [⟨1, "paragraph", [⟨2, "text", [], none, none, []⟩], some ⟨0, 2, by decide⟩,
    none, []⟩, ⟨3, "paragraph", [⟨4, "text", [], none, none, []⟩], some ⟨3, 5, by decide⟩, none,
    []⟩], none, none, []⟩, (and_iff_left_of_imp fun h => ?_).2 rfl⟩
  obtain ⟨honly, log, -, hpaths, hlog⟩ := load_anchors h
  refine ⟨honly, fun d htext htree => ⟨_, _, rfl, rfl, rfl, ?_⟩⟩
  have hanchor : ∀ p ∈ log.reverse.map (·.path), ∃ v, d.tree.visit? none none p = some v
      ∧ d.anchor v.node none = (d.tree.upward p).findSome? Node.span := by
    intro p hp
    obtain ⟨c, hc, rfl⟩ := List.mem_map.1 hp
    obtain ⟨f, v, -, hv, hplace⟩ := hlog c (List.mem_reverse.1 hc)
    exact ⟨v, htree ▸ hv, htree ▸ (hplace d none htext htree (.inl rfl)).2.1⟩
  rw [hpaths, htree] at hanchor
  obtain ⟨v, hv, hfirst⟩ := hanchor [0, 0] (by decide)
  obtain ⟨w, hw, hsecond⟩ := hanchor [1, 0] (by decide)
  cases hv
  cases hw
  exact ⟨hfirst, hsecond⟩

end Source

end Anchors

end MarkdownLint
