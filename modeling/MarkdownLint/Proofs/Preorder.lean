import MarkdownLint.Proofs.Places
import Mathlib.Data.List.Lex
import Mathlib.Data.Set.Finite.Lemmas

/-!
# Places in pre-order

The walk meets the places of a tree in the order of their paths, a path before those that go on
from it and a smaller index before a larger one (`walk_eq_filterMap`, `paths_increasing`).  A node
that stands at several places has a last one in this order (`exists_isLast`).  If one serial always
means one node, then the last place of a node is right below the last place of its parent there
(`IsLast.of_snoc`): a later place of the parent would have the node below it once more.
-/

namespace MarkdownLint.Node

mutual

/-- The paths to the places of a tree in pre-order. -/
def paths : Node → List (List Nat)
  | ⟨_, _, children, _, _, _⟩ => [] :: pathsFrom 0 children

/-- The paths to the places of some children, the first of which has index `i`. -/
def pathsFrom (i : Nat) : List Node → List (List Nat)
  | [] => []
  | n :: ns => (paths n).map (i :: ·) ++ pathsFrom (i + 1) ns

end

/-- The place at the end of a path, with the index and the parent it has there, where the root has
an index and a parent as given. -/
def visit? : Node → Option Nat → Option Node → List Nat → Option Visit
  | n, index, parent, [] => some ⟨n, index, parent⟩
  | n, _, _, i :: is =>
    match n.children[i]? with
    | some c => c.visit? (some i) (some n) is
    | none => none

theorem paths_eq (n : Node) : n.paths = [] :: pathsFrom 0 n.children := by
  cases n
  rfl

theorem mem_pathsFrom {p : List Nat} :
    ∀ {ns : List Node} {i : Nat},
      p ∈ pathsFrom i ns ↔ ∃ j c q, ns[j]? = some c ∧ q ∈ c.paths ∧ p = (i + j) :: q
  | [], i => by simp [pathsFrom]
  | n :: ns, i => by
    rw [pathsFrom, List.mem_append, List.mem_map, mem_pathsFrom]
    constructor
    · rintro (⟨q, hq, rfl⟩ | ⟨j, c, q, hc, hq, rfl⟩)
      · exact ⟨0, n, q, rfl, hq, rfl⟩
      · exact ⟨j + 1, c, q, hc, hq, by rw [Nat.add_right_comm, Nat.add_assoc]⟩
    · rintro ⟨_ | j, c, q, hc, hq, rfl⟩
      · cases hc
        exact .inl ⟨q, hq, rfl⟩
      · exact .inr ⟨j, c, q, hc, hq, by rw [Nat.add_right_comm, Nat.add_assoc]⟩

/-- The paths of a tree are those that can be followed. -/
theorem mem_paths (t : Node) : ∀ {p : List Nat}, p ∈ t.paths ↔ ∃ n, t.follow? p = some n := by
  induction t using childInduction with
  | node t ih =>
    intro p
    rw [paths_eq, List.mem_cons, mem_pathsFrom]
    cases p with
    | nil => simp [follow?]
    | cons i p =>
      simp only [reduceCtorEq, false_or, List.cons.injEq, Nat.zero_add, follow?_cons_eq_some_iff]
      constructor
      · rintro ⟨j, c, q, hc, hq, rfl, rfl⟩
        obtain ⟨n, hn⟩ := (ih c (List.mem_of_getElem? hc)).1 hq
        exact ⟨n, c, hc, hn⟩
      · rintro ⟨n, c, hc, hn⟩
        exact ⟨i, c, p, hc, (ih c (List.mem_of_getElem? hc)).2 ⟨n, hn⟩, rfl, rfl⟩

theorem pathsFrom_increasing :
    ∀ {ns : List Node} (i : Nat), (∀ n ∈ ns, n.paths.Pairwise (· < ·)) →
      (pathsFrom i ns).Pairwise (· < ·)
  | [], _, _ => .nil
  | n :: ns, i, h => by
    rw [pathsFrom, List.pairwise_append]
    refine ⟨?_, pathsFrom_increasing (i + 1) fun m hm => h m (List.mem_cons_of_mem _ hm), ?_⟩
    · rw [List.pairwise_map]
      refine (h n List.mem_cons_self).imp fun {p q} hpq => ?_
      exact List.cons_lt_cons_iff.2 (.inr ⟨rfl, hpq⟩)
    · intro p hp q hq
      obtain ⟨p, -, rfl⟩ := List.mem_map.1 hp
      obtain ⟨j, c, q, -, -, rfl⟩ := mem_pathsFrom.1 hq
      exact List.cons_lt_cons_iff.2 (.inl (by omega))

theorem paths_increasing (t : Node) : t.paths.Pairwise (· < ·) := by
  induction t using childInduction with
  | node t ih =>
    rw [paths_eq, List.pairwise_cons]
    refine ⟨fun p hp => ?_, pathsFrom_increasing 0 ih⟩
    obtain ⟨j, c, q, -, -, rfl⟩ := mem_pathsFrom.1 hp
    exact List.nil_lt_cons _ _

section Visits

variable {t : Node} {index : Option Nat} {parent : Option Node}

theorem visit?_cons {c : Node} {i : Nat} {is : List Nat} (hc : t.children[i]? = some c) :
    t.visit? index parent (i :: is) = c.visit? (some i) (some t) is := by
  rw [visit?, hc]

theorem visit?_node : ∀ (p : List Nat) (t : Node) (index : Option Nat) (parent : Option Node),
    (t.visit? index parent p).map (·.node) = t.follow? p
  | [], t, index, parent => rfl
  | i :: p, t, index, parent => by
    rw [visit?, follow?]
    cases t.children[i]? with
    | none => rfl
    | some c => exact visit?_node p c (some i) (some t)

theorem follow?_of_visit? {t : Node} {index : Option Nat} {parent : Option Node} {p : List Nat}
    {v : Visit} (h : t.visit? index parent p = some v) : t.follow? p = some v.node := by
  rw [← visit?_node p t index parent, h, Option.map_some]

theorem exists_visit? {t : Node} {p : List Nat} (h : p ∈ t.paths) :
    ∃ v, t.visit? none none p = some v := by
  obtain ⟨n, hn⟩ := t.mem_paths.1 h
  rw [← visit?_node p t none none, Option.map_eq_some_iff] at hn
  obtain ⟨v, hv, -⟩ := hn
  exact ⟨v, hv⟩

/-- Below the root, a place is a child of the one a step shorter. -/
theorem visit?_snoc_eq_some_iff {v : Visit} {i : Nat} :
    ∀ {p : List Nat} {t : Node} {index : Option Nat} {parent : Option Node},
      t.visit? index parent (p ++ [i]) = some v
        ↔ ∃ m c, t.follow? p = some m ∧ m.children[i]? = some c ∧ v = ⟨c, some i, some m⟩
  | [], t, index, parent => by
    rw [List.nil_append, visit?]
    rcases hc : t.children[i]? with _ | c
    · simp [follow?, hc]
    · simp [follow?, visit?, hc, eq_comm]
  | j :: p, t, index, parent => by
    rw [List.cons_append, visit?, follow?]
    cases t.children[j]? with
    | none => simp
    | some c => exact visit?_snoc_eq_some_iff

theorem filterMap_pathsFrom {ns : List Node}
    (h : ∀ c ∈ ns, ∀ index parent, c.preorder index parent
      = c.paths.filterMap (c.visit? index parent)) :
    ∀ {i : Nat}, (∀ j c, ns[j]? = some c → t.children[i + j]? = some c) →
      (pathsFrom i ns).filterMap (t.visit? index parent) = preorderFrom t i ns := by
  induction ns with
  | nil => exact fun _ => rfl
  | cons n ns ih =>
    intro i hns
    have hn : t.children[i]? = some n := hns 0 n rfl
    rw [pathsFrom, preorderFrom, List.filterMap_append, List.filterMap_map,
      h n List.mem_cons_self]
    congr 1
    · refine List.filterMap_congr fun p _ => ?_
      exact visit?_cons hn
    · refine ih (fun c hc => h c (List.mem_cons_of_mem _ hc)) fun j c hj => ?_
      rw [Nat.add_assoc, Nat.add_comm 1]
      exact hns (j + 1) c hj

theorem preorder_eq_filterMap (t : Node) :
    ∀ index parent, t.preorder index parent = t.paths.filterMap (t.visit? index parent) := by
  induction t using childInduction with
  | node t ih =>
    intro index parent
    have hroot : t.visit? index parent [] = some ⟨t, index, parent⟩ := rfl
    have hbelow : (pathsFrom 0 t.children).filterMap (t.visit? index parent)
        = preorderFrom t 0 t.children :=
      filterMap_pathsFrom ih fun j c hj => by rwa [Nat.zero_add]
    rw [preorder_eq, paths_eq, List.filterMap_cons_some hroot, hbelow]

/-- The walk meets what is at the end of each path, in the order of the paths. -/
theorem walk_eq_filterMap (t : Node) : t.walk = t.paths.filterMap (t.visit? none none) := by
  rw [walk_eq_preorder, preorder_eq_filterMap]

end Visits

section Last

/-- The last place of a node in pre-order. -/
structure IsLast (t n : Node) (p : List Nat) : Prop where
  follow : t.follow? p = some n
  le : ∀ q, t.follow? q = some n → q ≤ p

/-- What has one serial is one node. -/
def Identified (t : Node) : Prop :=
  ∀ p q n m, t.follow? p = some n → t.follow? q = some m → n.serial = m.serial → n = m

variable {t n m : Node} {p q : List Nat}

theorem exists_isLast (h : t.follow? p = some n) : ∃ q, t.IsLast n q := by
  have hfinite : {q | t.follow? q = some n}.Finite :=
    t.paths.finite_toSet.subset fun q hq => t.mem_paths.2 ⟨n, hq⟩
  obtain ⟨q, hq, hle⟩ := Set.exists_max_image _ id hfinite ⟨p, h⟩
  exact ⟨q, hq, hle⟩

/-- After the last place of a node the walk does not meet it again. -/
theorem IsLast.exists_walk_eq {v : Visit} (h : t.IsLast n p)
    (hv : t.visit? none none p = some v) :
    ∃ before after, t.walk = before ++ v :: after ∧ ∀ u ∈ after, u.node ≠ n := by
  obtain ⟨before, after, hpaths⟩ := List.append_of_mem (t.mem_paths.2 ⟨n, h.follow⟩)
  have hincreasing := t.paths_increasing
  rw [hpaths, List.pairwise_append, List.pairwise_cons] at hincreasing
  refine ⟨before.filterMap (t.visit? none none), after.filterMap (t.visit? none none), ?_,
    fun u hu hnode => ?_⟩
  · rw [walk_eq_filterMap, hpaths, List.filterMap_append, List.filterMap_cons_some hv]
  · obtain ⟨q, hq, hu⟩ := List.mem_filterMap.1 hu
    have hfollow := follow?_of_visit? hu
    rw [hnode] at hfollow
    exact absurd (h.le q hfollow) (not_le.2 (hincreasing.2.1.1 q hq))

theorem size_lt_of_mem (h : m ∈ n.children) : m.size < n.size := by
  have := size_le_sizes h
  rw [size_eq n]
  omega

theorem length_add_size_le :
    ∀ {p : List Nat} {t : Node}, t.follow? p = some n → p.length + n.size ≤ t.size
  | [], t, h => by
    cases h
    simp
  | i :: p, t, h => by
    obtain ⟨c, hc, hp⟩ := follow?_cons_eq_some_iff.1 h
    have := length_add_size_le hp
    have := size_lt_of_mem (List.mem_of_getElem? hc)
    rw [List.length_cons]
    omega

/-- No node is below itself. -/
theorem eq_nil_of_follow?_self (h : t.follow? p = some t) : p = [] := by
  have := length_add_size_le h
  exact List.eq_nil_of_length_eq_zero (by omega)

/-- A later path goes on from an earlier one, or parts from it and then stays later however both
go on. -/
theorem prefix_or_snoc_lt (i : Nat) :
    ∀ {p q : List Nat}, p < q → p <+: q ∨ p ++ [i] < q ++ [i]
  | [], q, _ => .inl q.nil_prefix
  | a :: p, [], h => by simp at h
  | a :: p, b :: q, h => by
    rcases List.cons_lt_cons_iff.1 h with hab | ⟨rfl, hpq⟩
    · exact .inr (List.cons_lt_cons_iff.2 (.inl hab))
    · refine (prefix_or_snoc_lt i hpq).imp (fun hp => ?_) fun hlt => ?_
      · exact List.cons_prefix_cons.2 ⟨rfl, hp⟩
      · exact List.cons_lt_cons_iff.2 (.inr ⟨rfl, hlt⟩)

/-- Where a node is at its last place, so is its parent. -/
theorem IsLast.of_snoc {i : Nat} (h : t.IsLast n (p ++ [i])) (hm : t.follow? p = some m)
    (hn : m.children[i]? = some n) : t.IsLast m p := by
  refine ⟨hm, fun q hq => not_lt.1 fun hpq => ?_⟩
  rcases prefix_or_snoc_lt i hpq with ⟨r, rfl⟩ | hlt
  · -- The parent would be below itself.
    rw [follow?_append, hm, Option.bind_some] at hq
    obtain rfl := eq_nil_of_follow?_self hq
    simp at hpq
  · exact absurd (h.le _ (follow?_snoc hq hn)) (not_le.2 hlt)

end Last

end MarkdownLint.Node
