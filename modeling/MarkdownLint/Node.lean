import MarkdownLint.Span
import MarkdownLint.Value

/-!
# Nodes

A document tree is a node with its children.  A node that was read from the text has a span; one
that the parser made up has none and is called generated.  The serial number tells one node from
another that looks the same: a node placed at several places of a tree has one serial there, and
nodes made one after the other have different ones.  Serials and the parser's extra data take no
part in `Node.alike`.
-/

namespace MarkdownLint

structure Node where
  serial : Nat
  type : String
  children : List Node
  span : Option Span
  value : Option String
  data : List (String × Value)
  deriving Inhabited

namespace Node

def isGenerated (n : Node) : Bool :=
  n.span.isNone

def isLeaf (n : Node) : Bool :=
  n.children.isEmpty

mutual

/-- The number of places in the tree below a node, its own included. -/
def size : Node → Nat
  | ⟨_, _, children, _, _, _⟩ => 1 + sizes children

def sizes : List Node → Nat
  | [] => 0
  | n :: ns => size n + sizes ns

end

mutual

/-- Whether two trees agree in type, span and value at every place. -/
def alike : Node → Node → Bool
  | ⟨_, t, cs, s, v, _⟩, ⟨_, u, ds, r, w, _⟩ => t = u && s = r && v = w && allAlike cs ds

def allAlike : List Node → List Node → Bool
  | [], [] => true
  | n :: ns, m :: ms => alike n m && allAlike ns ms
  | _, _ => false

end

/-- The node at the end of a path of child indexes. -/
def follow? : Node → List Nat → Option Node
  | n, [] => some n
  | n, i :: is =>
    match n.children[i]? with
    | some child => child.follow? is
    | none => none

theorem size_eq (n : Node) : n.size = 1 + sizes n.children := by
  cases n
  rfl

theorem sizes_append (ns ms : List Node) : sizes (ns ++ ms) = sizes ns + sizes ms := by
  induction ns with
  | nil => simp [sizes]
  | cons n ns ih => simp [sizes, ih, Nat.add_assoc]

end Node

end MarkdownLint
