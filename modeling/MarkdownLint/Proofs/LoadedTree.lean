import MarkdownLint.Proofs.Loading
import MarkdownLint.Proofs.Nesting

/-!
# What a loaded tree is like

Loading checks the span of an entry against one bound only, that of the nearest entry above that
has a span, and counts entries as it meets them.  In the tree it gives, each place passes the
checks of its own against its own bound, fewer steps down than there are levels
(`build_places`), and the count has gone up by the size of the tree (`build_count`).  So every
span lies within all those above it, and the limits hold of the whole tree (`load_sound`).
-/

namespace MarkdownLint

namespace Source

variable (s : Source)

/-- The line starts of the text, if it is known, are in order. -/
def TextInOrder : Prop :=
  ∀ l, s.location = some l → l.InOrder

theorem textInOrder_ofText (limits : Limits) (collections : Array Value) (text : Option String) :
    TextInOrder { limits, collections, location := text.map .ofText } := by
  intro l hl
  obtain ⟨x, -, rfl⟩ := Option.map_eq_some_iff.1 hl
  exact Location.ofText_inOrder x

/-- What the checks of an entry make sure of in the node it gives, under a bound. -/
structure Passes (bound : Option Span) (n : Node) : Prop where
  type_ne : n.type ≠ ""
  within : ∀ r, n.span = some r → ∀ b, bound = some b → b.contains r
  stop_le : ∀ r, n.span = some r → ∀ l, s.location = some l → r.stop ≤ l.length

variable {s}

theorem passes_of_fields (hs : s.TextInOrder) {bound : Option Span} {entry : Value} {f : Fields}
    (h : s.fields bound entry = .ok f) (serial : Nat) (children : List Node)
    (data : List (String × Value)) :
    s.Passes bound ⟨serial, f.type, children, f.span, f.value, data⟩ := by
  obtain ⟨entries, -, -, htype, hspan, -, -, -⟩ := fields_eq_ok_iff.1 h
  rcases boundedSpan_eq_ok_iff.1 hspan with ⟨-, hnone⟩ | ⟨r, -, hr, hbound, hsome⟩
  · exact ⟨htype, fun r hr => by simp [hnone] at hr, fun r hr => by simp [hnone] at hr⟩
  · obtain ⟨ends, -, -, hstop⟩ := span_eq_ok_iff.1 hr
    refine ⟨htype, fun r' hr' b hb => ?_, fun r' hr' l hl => ?_⟩
    · obtain rfl : r = r' := Option.some.inj (hsome.symm.trans hr')
      exact hbound b hb
    · obtain rfl : r = r' := Option.some.inj (hsome.symm.trans hr')
      exact offset_le_length hstop hl (hs l hl)

/-- By induction on the levels: an entry passes its checks under the bound it is given, and gives
its children the bound they have in the tree. -/
theorem build_places (hs : s.TextInOrder) {levels : Nat} :
    ∀ {way : List Nat} {bound : Option Span} {entry : Value} {n m : Nat} {t : Node},
      (s.build levels way bound entry).outcome n = (.ok t, m) →
      ∀ p c, t.follow? p = some c → p.length < levels ∧ s.Passes (t.spanAbove bound p) c := by
  induction levels with
  | zero =>
    intro way bound entry n m t h
    exact absurd h (s.build_zero_ne_ok way bound entry)
  | succ levels ih =>
    intro way bound entry n m t h
    obtain ⟨f, data, children, -, hf, -, hchildren, rfl⟩ := s.build_eq_ok_iff.1 h
    refine (Node.forall_places_iff
      (P := fun p b c => p.length < levels + 1 ∧ s.Passes b c)).2 ⟨?_, fun i c hc p d hd => ?_⟩
    · exact ⟨Nat.succ_pos _, passes_of_fields hs hf n children data⟩
    · obtain ⟨j, v, k, l, hv⟩ := exists_of_mem_eachFrom hchildren (List.mem_of_getElem? hc)
      obtain ⟨hlength, hpasses⟩ := ih hv p d hd
      exact ⟨by rw [List.length_cons]; omega, hpasses⟩

theorem eachFrom_count {f : Nat → Value → Loading Node} {limit : Int}
    (hf : ∀ i v k l node, (f i v).outcome k = (.ok node, l) → l = k + node.size ∧ l ≤ limit) :
    ∀ {vs : List Value} {i n m : Nat} {nodes : List Node},
      (eachFrom f i vs).outcome n = (.ok nodes, m) → (n : Int) ≤ limit →
      m = n + Node.sizes nodes ∧ m ≤ limit
  | [], i, n, m, nodes, h, hn => by
    rw [eachFrom_nil] at h
    cases h
    exact ⟨rfl, hn⟩
  | v :: vs, i, n, m, nodes, h, hn => by
    obtain ⟨node, k, rest, hnode, hrest, rfl⟩ := eachFrom_cons_eq_ok_iff.1 h
    obtain ⟨rfl, hk⟩ := hf i v n k node hnode
    obtain ⟨rfl, hm⟩ := eachFrom_count hf hrest hk
    exact ⟨by rw [Node.sizes, Nat.add_assoc], hm⟩

/-- The count goes up by the number of nodes made, and stays within the limit. -/
theorem build_count {levels : Nat} :
    ∀ {way : List Nat} {bound : Option Span} {entry : Value} {n m : Nat} {t : Node},
      (s.build levels way bound entry).outcome n = (.ok t, m) →
      m = n + t.size ∧ m ≤ s.limits.nodeCount := by
  induction levels with
  | zero =>
    intro way bound entry n m t h
    exact absurd h (s.build_zero_ne_ok way bound entry)
  | succ levels ih =>
    intro way bound entry n m t h
    obtain ⟨f, data, children, hroom, -, -, hchildren, rfl⟩ := s.build_eq_ok_iff.1 h
    obtain ⟨hm, hlimit⟩ := eachFrom_count (fun i v k l node hnode => ih hnode) hchildren
      (by omega)
    exact ⟨by rw [hm, Node.size_eq, Nat.add_assoc], hlimit⟩

theorem endsBy_of_load {limits : Limits} {collections : Array Value} {text : String}
    {root : Value} {t : Node}
    (h : load { limits, collections, location := some (.ofText text) } root = .ok t) :
    t.EndsBy text.length := by
  obtain ⟨m, hm⟩ := (load_eq_ok_iff _).1 h
  intro p n r hp hr
  rw [← Location.ofText_length]
  exact (build_places (textInOrder_ofText limits collections (some text)) hm p n hp).2.stop_le r hr
    _ rfl

/-- In a loaded tree every span lies within those of all the nodes above it, begins before it
ends and ends within the text if that is known, every type is there, and there are no more nodes
and no more levels than the limits allow. -/
theorem load_sound {limits : Limits} {collections : Array Value} {text : Option String}
    {root : Value} {t : Node}
    (h : load { limits, collections, location := text.map .ofText } root = .ok t) :
    (∀ p q n m outer inner, t.follow? p = some n → n.follow? q = some m → n.span = some outer →
        m.span = some inner → outer.start ≤ inner.start ∧ inner.stop ≤ outer.stop)
    ∧ (∀ p n r, t.follow? p = some n → n.span = some r →
        r.start ≤ r.stop ∧ ∀ x, text = some x → r.stop ≤ x.length)
    ∧ (∀ p n, t.follow? p = some n → n.type ≠ "")
    ∧ t.walk.length ≤ limits.nodeCount
    ∧ ∀ p n, t.follow? p = some n → p.length ≤ limits.treeDepth := by
  obtain ⟨m, hm⟩ := (load_eq_ok_iff _).1 h
  have hplaces := build_places (textInOrder_ofText limits collections text) hm
  refine ⟨?_, fun p n r hp hr => ⟨r.start_le_stop, ?_⟩, fun p n hp => (hplaces p n hp).2.type_ne,
    ?_, fun p n hp => ?_⟩
  · intro p q n m outer inner hp hq houter hinner
    exact Span.contains_iff.1 (Node.contains_of_inBounds p q
      (fun p n hp => (hplaces p n hp).2.within) hp hq houter hinner)
  · rintro x rfl
    rw [← Location.ofText_length]
    exact (hplaces p n hp).2.stop_le r hr _ rfl
  · obtain ⟨hsize, hlimit⟩ := build_count hm
    rw [Node.length_walk]
    simpa [hsize] using hlimit
  · have hlength := (hplaces p n hp).1
    dsimp only at hlength
    omega

/-- A text in a list without a span, in a root with one. -/
theorem load_sound_nested :
    ∃ t, load { limits := { nodeCount := 3, treeDepth := 2 },
                location := (some "ab\ncd").map .ofText }
        (.map [(.text "type", .text "root"),
          (.text "position", .map [(.text "start", .map [(.text "offset", .int 0)]),
            (.text "end", .map [(.text "offset", .int 5)])]),
          (.text "children", .list [.map [(.text "type", .text "list"),
            (.text "children", .list [.map [(.text "type", .text "text"),
              (.text "position", .map [(.text "start", .map [(.text "offset", .int 3)]),
                (.text "end", .map [(.text "offset", .int 5)])]),
              (.text "value", .text "cd")]])]])]) = .ok t
      ∧ (∃ n m outer inner, t.follow? [] = some n ∧ n.follow? [0, 0] = some m
        ∧ n.span = some outer ∧ m.span = some inner
        ∧ outer.start ≤ inner.start ∧ inner.stop ≤ outer.stop)
      ∧ t.walk.length ≤ (3 : Int) ∧ ∀ p n, t.follow? p = some n → p.length ≤ (2 : Int) := by
  refine ⟨⟨0, "root", [⟨1, "list", [⟨2, "text", [], some ⟨3, 5, by decide⟩, some "cd", []⟩],
    none, none, []⟩], some ⟨0, 5, by decide⟩, none, []⟩,
    (and_iff_left_of_imp fun h => ?_).2 rfl⟩
  obtain ⟨hspans, -, -, hcount, hdepth⟩ := load_sound h
  exact ⟨⟨_, _, _, _, rfl, rfl, rfl, rfl, hspans [] [0, 0] _ _ _ _ rfl rfl rfl rfl⟩, hcount, hdepth⟩

end Source

namespace Loader

variable {σ : Type} {l : Loader σ} {text : String} {t : LoadedTree}

theorem endsBy_of_loadValue {root : Value} (h : l.loadValue root (some text) = .ok t) :
    t.root.EndsBy text.length := by
  obtain ⟨tree, hload, ht⟩ := except_bind_eq_ok_iff.1 h
  cases ht
  exact Source.endsBy_of_load hload

theorem endsBy_of_loadLinked {linked : Linked} (h : l.loadLinked linked (some text) = .ok t) :
    t.root.EndsBy text.length := by
  unfold loadLinked at h
  split at h
  · cases h
  · obtain ⟨tree, hload, rfl⟩ := except_map_eq_ok_iff.1 h
    exact Source.endsBy_of_load hload

theorem endsBy_of_loadText {content : String} (h : (l.loadText content (some text)).1 = .ok t) :
    t.root.EndsBy text.length := by
  unfold loadText at h
  split_ifs at h
  generalize l.read content l.state = read at h
  rcases read with ⟨e | linked, state⟩
  · cases e <;> cases h
  · exact endsBy_of_loadLinked h

end Loader

end MarkdownLint
