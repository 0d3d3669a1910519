import MarkdownLint.Node

/-!
# Walking a tree

`Node.walk` lists the places of a tree, each node before its children and the children from first
to last, and `Node.walkTypes` those of them whose node has a wanted type.  The places still to be
visited are on a stack, so a deep tree costs no more than a wide one.
-/

namespace MarkdownLint

/-- A place in a tree: the node there, and unless it is the root its index among the children of
the parent. -/
structure Visit where
  node : Node
  index : Option Nat
  parent : Option Node

/-- The types of nodes that a walk is asked for: all of them, a single one, or those of a
collection. -/
inductive TypeFilter
  | all
  | one (type : String)
  | among (types : List String)

def TypeFilter.admits : TypeFilter → String → Bool
  | all, _ => true
  | one type, t => t = type
  | among types, t => types.contains t

namespace Node

/-- The places of some children of a node, the first of which has index `i`. -/
def childVisits (parent : Node) : Nat → List Node → List Visit
  | _, [] => []
  | i, n :: ns => ⟨n, some i, some parent⟩ :: childVisits parent (i + 1) ns

theorem sizes_childVisits (parent : Node) (i : Nat) (ns : List Node) :
    sizes ((childVisits parent i ns).map (·.node)) = sizes ns := by
  induction ns generalizing i with
  | nil => rfl
  | cons n ns ih => simp [childVisits, sizes, ih]

/-- Visits what is on the stack, topmost first, after what is already done.  A node that is not
wanted is passed over, and what is below it is visited all the same. -/
def walkStack (types : TypeFilter) (done : Array Visit) : List Visit → Array Visit
  | [] => done
  | v :: stack =>
    walkStack types (if types.admits v.node.type then done.push v else done)
      (childVisits v.node 0 v.node.children ++ stack)
termination_by stack => sizes (stack.map (·.node))
decreasing_by
  simp only [List.map_append, List.map_cons, sizes_append, sizes_childVisits, sizes, size_eq]
  omega

/-- The places whose node has one of the wanted types. -/
def walkTypes (tree : Node) (types : TypeFilter) : List Visit :=
  (walkStack types #[] [⟨tree, none, none⟩]).toList

def walk (tree : Node) : List Visit :=
  tree.walkTypes .all

/-- Calls a visitor on the places whose node has one of the wanted types, one after the other. -/
def visit {m : Type → Type} [Monad m] (tree : Node) (visitor : Visit → m PUnit)
    (types : TypeFilter) : m PUnit :=
  (tree.walkTypes types).forM visitor

end Node

end MarkdownLint
