import MarkdownLint.Node.Walk
import Mathlib.Tactic.Common

/-!
# Places of a tree

A place of a tree is a path of child indexes from its root, and the walk meets the places in
pre-order: it is the listing that goes through each node before its children and through these
from first to last (`walk_eq_preorder`).  So it meets as many places as the tree has
(`length_walk`), each of them at the end of a path, and a place that is not the root with its
parent and its index there (`root_or_isBelow_of_mem_walk`).
-/

namespace MarkdownLint.Node

section Paths

theorem follow?_cons (n : Node) (i : Nat) (is : List Nat) :
    n.follow? (i :: is) = n.children[i]?.bind (·.follow? is) := by
  rw [follow?]
  cases n.children[i]? <;> rfl

theorem follow?_cons_eq_some_iff {n m : Node} {i : Nat} {is : List Nat} :
    n.follow? (i :: is) = some m ↔ ∃ c, n.children[i]? = some c ∧ c.follow? is = some m := by
  rw [follow?_cons, Option.bind_eq_some_iff]

theorem follow?_append (n : Node) (p q : List Nat) :
    n.follow? (p ++ q) = (n.follow? p).bind (·.follow? q) := by
  induction p generalizing n with
  | nil => rfl
  | cons i is ih =>
    rw [List.cons_append, follow?_cons, follow?_cons, Option.bind_assoc]
    simp only [ih]

theorem follow?_snoc {n m c : Node} {p : List Nat} {i : Nat} (hp : n.follow? p = some m)
    (hc : m.children[i]? = some c) : n.follow? (p ++ [i]) = some c := by
  rw [follow?_append, hp, Option.bind_some, follow?_cons, hc]
  rfl

theorem follow?_snoc_eq_some_iff {n c : Node} {p : List Nat} {i : Nat} :
    n.follow? (p ++ [i]) = some c ↔ ∃ m, n.follow? p = some m ∧ m.children[i]? = some c := by
  refine ⟨fun h => ?_, fun ⟨m, hm, hc⟩ => follow?_snoc hm hc⟩
  rw [follow?_append, Option.bind_eq_some_iff] at h
  obtain ⟨m, hm, h⟩ := h
  obtain ⟨d, hd, h⟩ := follow?_cons_eq_some_iff.1 h
  cases h
  exact ⟨m, hm, hd⟩

end Paths

theorem size_le_sizes {n : Node} : ∀ {ns : List Node}, n ∈ ns → n.size ≤ sizes ns
  | m :: ns, h => by
    rw [sizes]
    rcases List.mem_cons.1 h with rfl | h
    · omega
    · have := size_le_sizes h
      omega

/-- A property that goes up from the children of a node to the node holds of every tree. -/
@[elab_as_elim]
theorem childInduction {motive : Node → Prop}
    (node : ∀ n, (∀ c ∈ n.children, motive c) → motive n) (n : Node) : motive n :=
  node n fun c _ => childInduction node c
termination_by n.size
decreasing_by
  rename_i hc
  have := size_le_sizes hc
  rw [size_eq n]
  omega

mutual

/-- The places of a tree in pre-order, its root met with an index and a parent. -/
def preorder (index : Option Nat) (parent : Option Node) : Node → List Visit
  | ⟨serial, type, children, span, value, data⟩ =>
    let n : Node := ⟨serial, type, children, span, value, data⟩
    ⟨n, index, parent⟩ :: preorderFrom n 0 children

/-- The places below some children of a node, the first of which has index `i`. -/
def preorderFrom (parent : Node) (i : Nat) : List Node → List Visit
  | [] => []
  | n :: ns => preorder (some i) (some parent) n ++ preorderFrom parent (i + 1) ns

end

theorem preorder_eq (index : Option Nat) (parent : Option Node) (n : Node) :
    n.preorder index parent = ⟨n, index, parent⟩ :: preorderFrom n 0 n.children := by
  cases n
  rfl

theorem flatMap_childVisits (parent : Node) (i : Nat) (ns : List Node) :
    (childVisits parent i ns).flatMap (fun v => v.node.preorder v.index v.parent)
      = preorderFrom parent i ns := by
  induction ns generalizing i with
  | nil => rfl
  | cons n ns ih => rw [childVisits, List.flatMap_cons, ih, preorderFrom]

/-- The places on the stack, each with all that is below it, are what is still to be met. -/
theorem walkStack_toList (types : TypeFilter) (done : Array Visit) (stack : List Visit) :
    (walkStack types done stack).toList
      = done.toList ++ (stack.flatMap fun v => v.node.preorder v.index v.parent).filter
          (types.admits ·.node.type) := by
  fun_induction walkStack types done stack with
  | case1 done => simp
  | case2 done v stack ih =>
    rw [dite_eq_ite] at ih
    rw [ih, List.flatMap_append, flatMap_childVisits, List.flatMap_cons, preorder_eq v.index]
    by_cases hv : types.admits v.node.type
    · simp [hv]
    · simp [hv]

theorem walkTypes_eq_preorder (t : Node) (types : TypeFilter) :
    t.walkTypes types = (t.preorder none none).filter (types.admits ·.node.type) := by
  rw [walkTypes, walkStack_toList]
  simp

theorem walk_eq_preorder (t : Node) : t.walk = t.preorder none none := by
  rw [walk, walkTypes_eq_preorder]
  exact List.filter_eq_self.2 fun _ _ => rfl

theorem length_preorderFrom (parent : Node) {ns : List Node}
    (h : ∀ n ∈ ns, ∀ index parent, (n.preorder index parent).length = n.size) (i : Nat) :
    (preorderFrom parent i ns).length = sizes ns := by
  induction ns generalizing i with
  | nil => rfl
  | cons n ns ih =>
    rw [preorderFrom, sizes, List.length_append, h n List.mem_cons_self,
      ih fun m hm => h m (List.mem_cons_of_mem _ hm)]

theorem length_preorder (n : Node) :
    ∀ index parent, (n.preorder index parent).length = n.size := by
  induction n using childInduction with
  | node n ih =>
    intro index parent
    rw [preorder_eq, List.length_cons, length_preorderFrom n ih, size_eq, Nat.add_comm]

theorem length_walk (t : Node) : t.walk.length = t.size := by
  rw [walk_eq_preorder, length_preorder]

/-- A place with the index that it has among the children of its parent, which is at the end of a
path from `n`. -/
def IsBelow (n : Node) (v : Visit) : Prop :=
  ∃ path m i, n.follow? path = some m ∧ m.children[i]? = some v.node ∧ v.index = some i
    ∧ v.parent = some m

theorem IsBelow.cons {n c : Node} {i : Nat} {v : Visit} (hc : n.children[i]? = some c)
    (hv : c.IsBelow v) : n.IsBelow v := by
  obtain ⟨path, m, j, hm, h⟩ := hv
  exact ⟨i :: path, m, j, follow?_cons_eq_some_iff.2 ⟨c, hc, hm⟩, h⟩

theorem isBelow_of_mem_preorderFrom {n : Node} {v : Visit} {i : Nat} {ns : List Node}
    (hns : ∀ j c, ns[j]? = some c → n.children[i + j]? = some c)
    (h : ∀ c ∈ ns, ∀ index parent, v ∈ c.preorder index parent →
      v = ⟨c, index, parent⟩ ∨ c.IsBelow v)
    (hv : v ∈ preorderFrom n i ns) : n.IsBelow v := by
  induction ns generalizing i with
  | nil => cases hv
  | cons c cs ih =>
    rw [preorderFrom, List.mem_append] at hv
    have hc : n.children[i]? = some c := hns 0 c rfl
    rcases hv with hv | hv
    · rcases h c List.mem_cons_self _ _ hv with rfl | hv
      · exact ⟨[], n, i, rfl, hc, rfl, rfl⟩
      · exact hv.cons hc
    · refine ih (i := i + 1) (fun j c' hj => ?_)
        (fun c' hc' => h c' (List.mem_cons_of_mem _ hc')) hv
      rw [Nat.add_assoc, Nat.add_comm 1]
      exact hns (j + 1) c' hj

theorem isBelow_of_mem_preorder (n : Node) {v : Visit} :
    ∀ index parent, v ∈ n.preorder index parent → v = ⟨n, index, parent⟩ ∨ n.IsBelow v := by
  induction n using childInduction with
  | node n ih =>
    intro index parent hv
    rw [preorder_eq, List.mem_cons] at hv
    refine hv.imp_right fun hv => isBelow_of_mem_preorderFrom (i := 0) (fun j c hj => ?_) ih hv
    rwa [Nat.zero_add]

/-- The walk meets the root with no parent, and every other place with the parent and the index
that it has. -/
theorem root_or_isBelow_of_mem_walk {t : Node} {v : Visit} (hv : v ∈ t.walk) :
    v = ⟨t, none, none⟩ ∨ t.IsBelow v :=
  isBelow_of_mem_preorder t none none (by rwa [← walk_eq_preorder])

end MarkdownLint.Node
