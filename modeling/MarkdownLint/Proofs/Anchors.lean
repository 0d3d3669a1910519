import MarkdownLint.Proofs.Preorder
import MarkdownLint.Sink
import Mathlib.Data.List.Induction

/-!
# Anchors

The parent that a document knows of a node is the one at the node's last place
(`parentOf_of_isLast`), and that is the parent's last place too, so the way up from a node follows
one way through the tree, that from its last place to the root (`climbs_of_isLast`).  An anchor is
the first span on this way (`anchor_last_place`).

A parent given as a hint fixes the first step only; from there on the way is that of the parent's
last place (`anchor_below_parent`).  It is the way that was meant if the generated nodes on it,
the one at its start apart, have no other parents; otherwise it can be another one
(`anchor_below_shared_parent`).
-/

namespace MarkdownLint

namespace Node

/-- The nodes on the way from the end of a path up to the root. -/
def upward : Node → List Nat → List Node
  | n, [] => [n]
  | n, i :: is =>
    match n.children[i]? with
    | some c => c.upward is ++ [n]
    | none => []

/-- Up to the first node of a way up that has a span, each one has the next as its only parent. -/
def OnlyWay (t : Node) : List Node → Prop
  | n :: m :: ns =>
    n.span = none → (∀ v ∈ t.walk, v.node = n → v.parent = some m) ∧ t.OnlyWay (m :: ns)
  | _ => True

theorem upward_snoc {m c : Node} {i : Nat} :
    ∀ {p : List Nat} {t : Node}, t.follow? p = some m → m.children[i]? = some c →
      t.upward (p ++ [i]) = c :: t.upward p
  | [], t, hp, hc => by
    cases hp
    simp [upward, hc]
  | j :: p, t, hp, hc => by
    obtain ⟨d, hd, hp⟩ := follow?_cons_eq_some_iff.1 hp
    rw [List.cons_append, upward, upward, hd]
    simp only [upward_snoc hp hc, List.cons_append]

theorem upward_eq_cons {t n : Node} {p : List Nat} (hp : t.follow? p = some n) :
    ∃ ns, t.upward p = n :: ns := by
  rcases List.eq_nil_or_concat p with rfl | ⟨q, i, rfl⟩
  · obtain rfl : t = n := Option.some.inj hp
    exact ⟨[], rfl⟩
  · rw [List.concat_eq_append] at hp ⊢
    obtain ⟨m, hm, hn⟩ := follow?_snoc_eq_some_iff.1 hp
    exact ⟨_, upward_snoc hm hn⟩

theorem exists_follow?_of_visit? {t : Node} {p : List Nat} {v : Visit} {m : Node}
    (hv : t.visit? none none p = some v) (hm : v.parent = some m) :
    ∃ q i, p = q ++ [i] ∧ t.follow? q = some m ∧ m.children[i]? = some v.node := by
  rcases List.eq_nil_or_concat p with rfl | ⟨q, i, rfl⟩
  · cases hv
    cases hm
  · rw [List.concat_eq_append] at hv
    obtain ⟨m', c, hq, hc, rfl⟩ := visit?_snoc_eq_some_iff.1 hv
    cases hm
    exact ⟨q, i, List.concat_eq_append, hq, hc⟩

end Node

namespace Document

/-- From a node, or from none above the root, the way up comes to its end within `k` steps, and
this is the first span on it. -/
inductive Climbs (d : Document) : Nat → Option Node → Option Span → Prop
  | top {k : Nat} : d.Climbs k none none
  | found {k : Nat} {n : Node} {s : Span} (h : n.span = some s) : d.Climbs (k + 1) (some n) (some s)
  | up {k : Nat} {n : Node} {r : Option Span} (h : n.span = none)
      (above : d.Climbs k (d.parentOf n) r) : d.Climbs (k + 1) (some n) r

variable {d : Document}

theorem climb_of_climbs {k : Nat} {n : Option Node} {r : Option Span} (h : d.Climbs k n r) :
    d.climb k n = r := by
  induction h with
  | top => rw [climb]
  | found h => rw [climb, h]
  | up h _ ih => rw [climb, h, ih]

theorem Climbs.mono {k : Nat} {n : Option Node} {r : Option Span} (h : d.Climbs k n r) :
    ∀ {l : Nat}, k ≤ l → d.Climbs l n r := by
  induction h with
  | top => exact fun _ => .top
  | found h =>
    rintro (_ | l) hl
    · cases hl
    · exact .found h
  | up h _ ih =>
    rintro (_ | l) hl
    · cases hl
    · exact .up h (ih (Nat.le_of_succ_le_succ hl))

theorem Climbs.cons {k : Nat} {n : Node} {ns : List Node}
    (h : n.span = none → d.Climbs k (d.parentOf n) (ns.findSome? Node.span)) :
    d.Climbs (k + 1) (some n) ((n :: ns).findSome? Node.span) := by
  rw [List.findSome?_cons]
  rcases hs : n.span with _ | s
  · exact .up hs (h hs)
  · exact .found hs

theorem mem_visits {v : Visit} :
    v ∈ d.visits ↔ ∃ p, d.tree.visit? none none p = some v := by
  rw [d.visits_eq, Node.walk_eq_filterMap, List.mem_filterMap]
  refine ⟨fun ⟨p, _, hv⟩ => ⟨p, hv⟩, fun ⟨p, hv⟩ => ⟨p, ?_, hv⟩⟩
  exact d.tree.mem_paths.2 ⟨_, Node.follow?_of_visit? hv⟩

theorem follow?_of_mem_visits {v : Visit} (h : v ∈ d.visits) :
    ∃ p, d.tree.follow? p = some v.node := by
  obtain ⟨p, hv⟩ := mem_visits.1 h
  exact ⟨p, Node.follow?_of_visit? hv⟩

section Parents

variable {n m : Node}

/-- What comes after the last place of a node leaves the parent that is found there as it is. -/
theorem foldl_parent_of_forall {found : Option Node} {vs : List Visit}
    (h : ∀ v ∈ vs, v.node.serial = n.serial → v.parent = none) :
    vs.foldl (fun found v => if v.node.serial = n.serial then v.parent.or found else found) found
      = found := by
  induction vs generalizing found with
  | nil => rfl
  | cons v vs ih =>
    have hstep : (if v.node.serial = n.serial then v.parent.or found else found) = found := by
      split_ifs with hserial
      · rw [h v List.mem_cons_self hserial, Option.none_or]
      · rfl
    rw [List.foldl_cons, hstep, ih fun u hu => h u (List.mem_cons_of_mem _ hu)]

theorem parentOf_eq_none (h : ∀ v ∈ d.visits, v.node.serial = n.serial → v.parent = none) :
    d.parentOf n = none :=
  foldl_parent_of_forall h

theorem parentOf_eq_some {before after : List Visit} {v : Visit}
    (hsplit : d.visits = before ++ v :: after) (hserial : v.node.serial = n.serial)
    (hparent : v.parent = some m) (hafter : ∀ u ∈ after, u.node.serial ≠ n.serial) :
    d.parentOf n = some m := by
  rw [parentOf, hsplit, List.foldl_append, List.foldl_cons, if_pos hserial, hparent,
    Option.some_or]
  exact foldl_parent_of_forall fun u hu h => absurd h (hafter u hu)

/-- A node that is in the tree nowhere has no parent. -/
theorem parentOf_of_notMem (h : ∀ p c, d.tree.follow? p = some c → c.serial ≠ n.serial) :
    d.parentOf n = none := by
  refine parentOf_eq_none fun v hv hserial => ?_
  obtain ⟨p, hp⟩ := follow?_of_mem_visits hv
  exact absurd hserial (h p v.node hp)

variable (hid : d.tree.Identified)

include hid

theorem parentOf_root : d.parentOf d.tree = none := by
  refine parentOf_eq_none fun v hv hserial => ?_
  obtain ⟨p, hv⟩ := mem_visits.1 hv
  have hp := Node.follow?_of_visit? hv
  have hroot : v.node = d.tree := hid p [] v.node d.tree hp rfl hserial
  rw [hroot] at hp
  obtain rfl := Node.eq_nil_of_follow?_self hp
  cases hv
  rfl

/-- The parent of a node is that at its last place. -/
theorem parentOf_of_isLast {p : List Nat} {i : Nat} (h : d.tree.IsLast n (p ++ [i]))
    (hm : d.tree.follow? p = some m) (hn : m.children[i]? = some n) :
    d.parentOf n = some m := by
  have hv : d.tree.visit? none none (p ++ [i]) = some ⟨n, some i, some m⟩ :=
    Node.visit?_snoc_eq_some_iff.2 ⟨m, n, hm, hn, rfl⟩
  obtain ⟨before, after, hwalk, hafter⟩ := h.exists_walk_eq hv
  rw [← d.visits_eq] at hwalk
  refine parentOf_eq_some hwalk rfl rfl fun u hu hserial => hafter u hu ?_
  have hu : u ∈ d.visits := hwalk ▸ List.mem_append_right _ (List.mem_cons_of_mem _ hu)
  obtain ⟨q, hq⟩ := follow?_of_mem_visits hu
  exact hid q _ u.node n hq h.follow hserial

/-- From the last place of a node the way up goes through the tree as it is. -/
theorem climbs_of_isLast {p : List Nat} :
    ∀ {n : Node}, d.tree.IsLast n p →
      d.Climbs (p.length + 1) (some n) ((d.tree.upward p).findSome? Node.span) := by
  induction p using List.reverseRecOn with
  | nil =>
    intro n h
    obtain rfl : d.tree = n := Option.some.inj h.follow
    refine .cons fun _ => ?_
    rw [parentOf_root hid]
    exact .top
  | append_singleton p i ih =>
    intro n h
    obtain ⟨m, hm, hn⟩ := Node.follow?_snoc_eq_some_iff.1 h.follow
    rw [Node.upward_snoc hm hn, List.length_append, List.length_singleton]
    refine .cons fun _ => ?_
    rw [parentOf_of_isLast hid h hm hn]
    exact ih (h.of_snoc hm hn)

/-- A node that is found under one parent only has that as its parent. -/
theorem parentOf_of_forall {p : List Nat} (hp : d.tree.follow? p = some n)
    (honly : ∀ v ∈ d.tree.walk, v.node = n → v.parent = some m) : d.parentOf n = some m := by
  obtain ⟨last, hlast⟩ := Node.exists_isLast hp
  rcases List.eq_nil_or_concat last with rfl | ⟨q, i, rfl⟩
  · obtain rfl : d.tree = n := Option.some.inj hlast.follow
    have hroot : (⟨d.tree, none, none⟩ : Visit) ∈ d.visits := mem_visits.2 ⟨[], rfl⟩
    rw [d.visits_eq] at hroot
    exact absurd (honly _ hroot rfl) (by simp)
  · rw [List.concat_eq_append] at hlast
    obtain ⟨m', hm, hn⟩ := Node.follow?_snoc_eq_some_iff.1 hlast.follow
    have hv : (⟨n, some i, some m'⟩ : Visit) ∈ d.visits :=
      mem_visits.2 ⟨q ++ [i], Node.visit?_snoc_eq_some_iff.2 ⟨m', n, hm, hn, rfl⟩⟩
    rw [d.visits_eq] at hv
    rw [parentOf_of_isLast hid hlast hm hn]
    exact honly _ hv rfl

/-- From any place of a node the way up goes through the tree as it is, if there is no other. -/
theorem climbs_of_onlyWay {p : List Nat} :
    ∀ {n : Node}, d.tree.follow? p = some n → d.tree.OnlyWay (d.tree.upward p) →
      d.Climbs (p.length + 1) (some n) ((d.tree.upward p).findSome? Node.span) := by
  induction p using List.reverseRecOn with
  | nil =>
    intro n h _
    exact climbs_of_isLast hid ⟨h, fun q hq => by
      obtain rfl : d.tree = n := Option.some.inj h
      rw [Node.eq_nil_of_follow?_self hq]⟩
  | append_singleton p i ih =>
    intro n h honly
    obtain ⟨m, hm, hn⟩ := Node.follow?_snoc_eq_some_iff.1 h
    obtain ⟨ns, hns⟩ := Node.upward_eq_cons hm
    rw [Node.upward_snoc hm hn, hns] at honly
    rw [Node.upward_snoc hm hn, List.length_append, List.length_singleton]
    refine .cons fun hspan => ?_
    obtain ⟨hparent, honly⟩ := honly hspan
    rw [parentOf_of_forall hid h hparent]
    exact ih hm (hns ▸ honly)

end Parents

section Anchors

variable {n m : Node}

theorem length_lt_of_follow? {p : List Nat} (h : d.tree.follow? p = some n) :
    p.length < d.visits.length := by
  have hle := Node.length_add_size_le h
  rw [d.visits_eq, Node.length_walk]
  rw [n.size_eq] at hle
  omega

theorem anchor_of_climbs {r : Option Span} (h : d.Climbs (d.visits.length + 2) (some n) r) :
    d.anchor n none = r := by
  cases h with
  | found hs => rw [anchor, hs]
  | up hs above =>
    rw [anchor, hs]
    exact climb_of_climbs above

theorem anchor_of_climbs_parent {ns : List Node}
    (h : d.Climbs (d.visits.length + 1) (some m) (ns.findSome? Node.span)) :
    d.anchor n (some m) = (n :: ns).findSome? Node.span := by
  rw [anchor, List.findSome?_cons]
  cases n.span with
  | none => exact climb_of_climbs h
  | some s => rfl

/-- Without a hint, a node of the tree is anchored at the first span on the way from its last
place up to the root, and the way comes to its end.  A node that is not in the tree is anchored at
its own span, also if the tree has one that looks the same. -/
theorem anchor_last_place (d : Document) (hid : d.tree.Identified) (n : Node) :
    (∀ p, d.tree.follow? p = some n → ∃ last, d.tree.IsLast n last
      ∧ d.Climbs (last.length + 1) (some n) (d.anchor n none)
      ∧ d.anchor n none = (d.tree.upward last).findSome? Node.span)
    ∧ ((∀ p c, d.tree.follow? p = some c → c.serial ≠ n.serial) →
      d.Climbs 1 (some n) (d.anchor n none) ∧ d.anchor n none = n.span) := by
  refine ⟨fun p hp => ?_, fun hout => ?_⟩
  · obtain ⟨last, hlast⟩ := Node.exists_isLast hp
    have hlength := length_lt_of_follow? hlast.follow
    have hclimbs := climbs_of_isLast hid hlast
    have hanchor := anchor_of_climbs (hclimbs.mono (by omega))
    exact ⟨last, hlast, hanchor ▸ hclimbs, hanchor⟩
  · have hclimbs : d.Climbs 1 (some n) ([n].findSome? Node.span) := .cons fun _ => by
      rw [parentOf_of_notMem hout]
      exact .top
    have hspan : [n].findSome? Node.span = n.span := by
      rw [List.findSome?_cons]
      cases n.span <;> rfl
    have hanchor := anchor_of_climbs (hclimbs.mono (by omega))
    rw [hanchor]
    exact ⟨hclimbs, hspan⟩

def sharedText : Node := ⟨0, "text", [], none, some "gen", []⟩

def sharedEmphasis : Node := ⟨1, "emphasis", [sharedText], none, none, []⟩

def strongEmphasis : Node := ⟨2, "strong", [sharedText], none, none, []⟩

def firstParagraph : Node :=
  ⟨3, "paragraph", [sharedEmphasis, strongEmphasis], some ⟨0, 5, by decide⟩, none, []⟩

def secondParagraph : Node :=
  ⟨4, "paragraph", [sharedEmphasis], some ⟨6, 11, by decide⟩, none, []⟩

/-- A text and an emphasis around it, both generated, that stand in two paragraphs; in the first
one the text stands once more, in a strong emphasis. -/
def sharingTree : Node :=
  ⟨5, "root", [firstParagraph, secondParagraph], some ⟨0, 12, by decide⟩, none, []⟩

def sharingDocument : Document where
  text := "Alpha\nBravo\n"
  tree := sharingTree
  visits := sharingTree.preorder none none
  visits_eq := sharingTree.walk_eq_preorder.symm

theorem getElem?_serial_sharingTree (p : List Nat) (n : Node)
    (hp : sharingTree.follow? p = some n) :
    [sharedText, sharedEmphasis, strongEmphasis, firstParagraph, secondParagraph,
      sharingTree][n.serial]? = some n := by
  have hmem : p ∈ sharingTree.paths := sharingTree.mem_paths.2 ⟨n, hp⟩
  have hpaths : sharingTree.paths
      = [[], [0], [0, 0], [0, 0, 0], [0, 1], [0, 1, 0], [1], [1, 0], [1, 0, 0]] := rfl
  rw [hpaths] at hmem
  simp only [List.mem_cons, List.not_mem_nil, or_false] at hmem
  rcases hmem with rfl | rfl | rfl | rfl | rfl | rfl | rfl | rfl | rfl <;>
    exact Option.some.inj hp ▸ rfl

theorem identified_sharingTree : sharingTree.Identified := by
  intro p q n m hp hq heq
  have hn := getElem?_serial_sharingTree p n hp
  rw [heq, getElem?_serial_sharingTree q m hq] at hn
  exact (Option.some.inj hn).symm

/-- The shared text, and another one that looks the same. -/
theorem anchor_last_place_shared :
    sharingDocument.tree.Identified
    ∧ sharingDocument.tree.follow? [0, 0, 0] = some sharedText
    ∧ (∃ last, sharingDocument.tree.IsLast sharedText last
      ∧ sharingDocument.Climbs (last.length + 1) (some sharedText)
        (sharingDocument.anchor sharedText none)
      ∧ sharingDocument.anchor sharedText none
        = (sharingDocument.tree.upward last).findSome? Node.span)
    ∧ sharingDocument.anchor sharedText none = some ⟨6, 11, by decide⟩
    ∧ { sharedText with serial := 6 }.alike sharedText
    ∧ (∀ p c, sharingDocument.tree.follow? p = some c → c.serial ≠ 6)
    ∧ sharingDocument.anchor { sharedText with serial := 6 } none = none := by
  have hid : sharingDocument.tree.Identified := identified_sharingTree
  have hout : ∀ p c, sharingDocument.tree.follow? p = some c → c.serial ≠ 6 := by
    intro p c hp h
    have hc := getElem?_serial_sharingTree p c hp
    rw [h] at hc
    cases hc
  refine ⟨hid, rfl, (anchor_last_place sharingDocument hid sharedText).1 [0, 0, 0] rfl, rfl, rfl,
    hout, ?_⟩
  exact ((anchor_last_place sharingDocument hid { sharedText with serial := 6 }).2 hout).2

end Anchors

section Hints

/-- The place of a diagnostic at a span, or nowhere if there is none. -/
def spanPlace (d : Document) :
    Option Span → Except ReportError (Option Position × Option PositionRange)
  | none => .ok (none, none)
  | some s => ((d.rangeOf s).map fun r => (some r.start, some r)).mapError .location

theorem place_node (d : Document) (n : Node) (parent : Option Node) :
    d.place (.node n parent) = d.spanPlace (d.anchor n parent) := by
  rw [place]
  rcases d.anchor n parent with _ | s
  · rfl
  · rw [spanPlace]
    rcases hrange : d.rangeOf s with e | r <;> simp only [hrange] <;> rfl

/-- With the parent that the walk gives beside it, a node is anchored at its own span or else at
the first one on the way from the last place of that parent up to the root.  This is the first
span on the way up from the place itself if each generated node on that, from the parent to the
first node with a span, has one parent only.  A report with this hint is located at the anchor. -/
theorem anchor_below_parent (d : Document) (hid : d.tree.Identified) :
    d.tree.walk = d.tree.paths.filterMap (d.tree.visit? none none)
    ∧ ∀ p v m, d.tree.visit? none none p = some v → v.parent = some m →
      (∃ last, d.tree.IsLast m last
        ∧ d.anchor v.node (some m) = (v.node :: d.tree.upward last).findSome? Node.span)
      ∧ (d.tree.OnlyWay (d.tree.upward p.dropLast) →
        d.anchor v.node (some m) = (d.tree.upward p).findSome? Node.span)
      ∧ ∀ (s : Sink) (message : String), s.document = d →
        (s.report ⟨message, .node v.node (some m)⟩).map (·.1)
          = (d.spanPlace (d.anchor v.node (some m))).map fun w =>
            ⟨message, w.1, w.2, s.ruleId, s.source, s.severity⟩ := by
  refine ⟨d.tree.walk_eq_filterMap, fun p v m hv hm => ?_⟩
  obtain ⟨q, i, rfl, hq, hc⟩ := Node.exists_follow?_of_visit? hv hm
  refine ⟨?_, fun honly => ?_, fun s message hs => ?_⟩
  · obtain ⟨last, hlast⟩ := Node.exists_isLast hq
    have hlength := length_lt_of_follow? hlast.follow
    have hclimbs := (climbs_of_isLast hid hlast).mono (l := d.visits.length + 1) (by omega)
    exact ⟨last, hlast, anchor_of_climbs_parent hclimbs⟩
  · have hlength := length_lt_of_follow? hq
    rw [List.dropLast_concat] at honly
    rw [Node.upward_snoc hq hc]
    exact anchor_of_climbs_parent ((climbs_of_onlyWay hid hq honly).mono (by omega))
  · rw [Sink.report, Sink.diagnose, hs, place_node]
    cases d.spanPlace (d.anchor v.node (some m)) <;> rfl

/-- The text in the strong emphasis, which has one parent only. -/
theorem anchor_below_parent_strong :
    sharingDocument.tree.Identified
    ∧ sharingDocument.tree.visit? none none [0, 1, 0]
      = some ⟨sharedText, some 0, some strongEmphasis⟩
    ∧ sharingDocument.tree.OnlyWay (sharingDocument.tree.upward [0, 1])
    ∧ sharingDocument.anchor sharedText (some strongEmphasis)
      = (sharingDocument.tree.upward [0, 1, 0]).findSome? Node.span
    ∧ (sharingDocument.tree.upward [0, 1, 0]).findSome? Node.span = some ⟨0, 5, by decide⟩ := by
  have hid : sharingDocument.tree.Identified := identified_sharingTree
  have honly : sharingDocument.tree.OnlyWay (sharingDocument.tree.upward [0, 1]) := by
    refine fun _ => ⟨fun v hv hnode => ?_, fun h => by cases h⟩
    have hplace : (sharingTree.preorder none none).filter (fun u => u.node.serial = 2)
        = [⟨strongEmphasis, some 1, some firstParagraph⟩] := rfl
    have hserial : v.node.serial = 2 := congrArg Node.serial hnode
    rw [Node.walk_eq_preorder] at hv
    have hmem : v ∈ (sharingTree.preorder none none).filter (fun u => u.node.serial = 2) :=
      List.mem_filter.2 ⟨hv, decide_eq_true hserial⟩
    rw [hplace, List.mem_singleton] at hmem
    rw [hmem]
  have hvisit := (anchor_below_parent sharingDocument hid).2 [0, 1, 0] _ strongEmphasis rfl rfl
  exact ⟨hid, rfl, honly, hvisit.2.1 honly, rfl⟩

/-- The text below the shared emphasis, at its place in the first paragraph: the hint leads to the
second one. -/
theorem anchor_below_shared_parent :
    sharingDocument.tree.Identified
    ∧ sharingDocument.tree.visit? none none [0, 0, 0]
      = some ⟨sharedText, some 0, some sharedEmphasis⟩
    ∧ sharingDocument.anchor sharedText (some sharedEmphasis) = some ⟨6, 11, by decide⟩
    ∧ (sharingDocument.tree.upward [0, 0, 0]).findSome? Node.span = some ⟨0, 5, by decide⟩ :=
  ⟨identified_sharingTree, rfl, rfl, rfl⟩

end Hints

end Document

end MarkdownLint
