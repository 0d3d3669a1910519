import MarkdownLint.Proofs.Preorder
import Mathlib.Data.List.Forall2

/-!
# Walks that want some types

A walk passes over the nodes whose type is not wanted, but goes on below them.  So it meets the
places of the whole walk at which there is a wanted node, in the same order and each of them once
(`walkTypes_eq_filterMap`), and a visitor is called on these (`walkTypes_listing`).
-/

namespace MarkdownLint.Node

/-- A path leads to a node of a wanted type. -/
def leadsTo (t : Node) (types : TypeFilter) (p : List Nat) : Bool :=
  (t.follow? p).any (types.admits ·.type)

variable {t : Node} {types : TypeFilter} {p : List Nat}

theorem leadsTo_iff : t.leadsTo types p ↔ ∃ n, t.follow? p = some n ∧ types.admits n.type := by
  rw [leadsTo, Option.any_eq_true]

/-- Whether a place is visited depends on the node that its path leads to. -/
theorem any_visit? (t : Node) (types : TypeFilter) (p : List Nat) :
    (t.visit? none none p).any (types.admits ·.node.type) = t.leadsTo types p := by
  rw [leadsTo, ← visit?_node p t none none, Option.any_map]

theorem walkTypes_eq_filterMap (t : Node) (types : TypeFilter) :
    t.walkTypes types = (t.paths.filter (t.leadsTo types)).filterMap (t.visit? none none) := by
  rw [walkTypes_eq_preorder, preorder_eq_filterMap, List.filter_filterMap, List.filterMap_filter]
  refine List.filterMap_congr fun p _ => ?_
  rw [← any_visit?]
  cases t.visit? none none p with
  | none => rfl
  | some v => simp [Option.filter]

theorem forall₂_visit? :
    ∀ {ps : List (List Nat)}, (∀ p ∈ ps, t.leadsTo types p) →
      List.Forall₂ (fun p v => t.visit? none none p = some v) ps
        (ps.filterMap (t.visit? none none))
  | [], _ => .nil
  | p :: ps, h => by
    have hp : (t.visit? none none p).any (types.admits ·.node.type) :=
      (any_visit? t types p).trans (h p List.mem_cons_self)
    obtain ⟨v, hv, -⟩ := Option.any_eq_true _ _ |>.1 hp
    rw [List.filterMap_cons_some hv]
    exact .cons hv (forall₂_visit? fun q hq => h q (List.mem_cons_of_mem _ hq))

/-- A walk for some types, all of them or one or those of a collection, is the pre-order listing of
the tree without the nodes that are not wanted.  Its places are those whose path leads to a wanted
node, in the order of the paths and each of them once, so a node that stands at several places is
met at each.  The root is met without a parent, and any other node as the child of its parent with
the index it is met with.  A visitor, whatever its effects, is called on just this listing. -/
theorem walkTypes_listing (t : Node) (types : TypeFilter) :
    t.walkTypes types = (t.preorder none none).filter (types.admits ·.node.type)
    ∧ (∃ places : List (List Nat), places.Pairwise (· < ·)
      ∧ (∀ p, p ∈ places ↔ ∃ n, t.follow? p = some n ∧ types.admits n.type)
      ∧ List.Forall₂ (fun p v => t.visit? none none p = some v) places (t.walkTypes types))
    ∧ (∀ v ∈ t.walkTypes types, v = ⟨t, none, none⟩
      ∨ ∃ i parent, v.index = some i ∧ v.parent = some parent
        ∧ parent.children[i]? = some v.node)
    ∧ ∀ {m : Type → Type} [Monad m] (visitor : Visit → m PUnit),
      t.visit visitor types
        = ((t.preorder none none).filter (types.admits ·.node.type)).forM visitor := by
  refine ⟨walkTypes_eq_preorder t types, ⟨t.paths.filter (t.leadsTo types),
    t.paths_increasing.filter _, fun p => ?_, ?_⟩, fun v hv => ?_, fun visitor => ?_⟩
  · rw [List.mem_filter, leadsTo_iff, t.mem_paths]
    exact and_iff_right_of_imp fun ⟨n, hn, _⟩ => ⟨n, hn⟩
  · rw [walkTypes_eq_filterMap]
    exact forall₂_visit? fun p hp => (List.mem_filter.1 hp).2
  · rw [walkTypes_eq_preorder, ← walk_eq_preorder] at hv
    rcases root_or_isBelow_of_mem_walk (List.mem_filter.1 hv).1 with
      rfl | ⟨path, parent, i, -, hchild, hindex, hparent⟩
    · exact .inl rfl
    · exact .inr ⟨i, parent, hindex, hparent, hchild⟩
  · rw [visit, walkTypes_eq_preorder]

/-- A text that two emphases share is met below each of them, though these are not wanted. -/
example :
    let text : Node := ⟨0, "text", [], none, none, []⟩
    let emphasis : Node := ⟨1, "emphasis", [text, text], none, none, []⟩
    let root : Node := ⟨2, "root", [emphasis, emphasis], none, none, []⟩
    (root.walkTypes (.among ["text", "root"])).map (fun v => (v.node.serial, v.index))
      = [(2, none), (0, some 0), (0, some 1), (0, some 0), (0, some 1)] := by
  decide +kernel

end MarkdownLint.Node
