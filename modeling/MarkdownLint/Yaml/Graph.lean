import MarkdownLint.Yaml.Tag

/-!
# Graphs of YAML documents

A document as a graph.  Its vertices are scalars, sequences and mappings, each with the tag that
says what it denotes, and they are numbered in the order in which they begin.  A collection refers
to its parts by number, so an alias is one more reference to the vertex with the anchor, and a
collection may be among its own parts.
-/

namespace MarkdownLint.Yaml

/-- The numbers of a key and of its value. -/
abbrev Entry := Nat × Nat

/-- What a vertex is made of.  The entries of a mapping include those that it has merged. -/
inductive Content
  | scalar (text : String)
  | sequence (items : List Nat)
  | mapping (merged entries : List Entry)

structure Vertex where
  tag : Tag
  content : Content

/-- A null without text. -/
def Vertex.empty : Vertex := ⟨.null, .scalar ""⟩

instance : Inhabited Vertex := ⟨.empty⟩

abbrev Graph := Array Vertex

namespace Graph

def tag (g : Graph) (n : Nat) : Tag :=
  (g.getD n .empty).tag

def content (g : Graph) (n : Nat) : Content :=
  (g.getD n .empty).content

/-- The entries of a mapping. -/
def entries (g : Graph) (n : Nat) : List Entry :=
  match g.content n with
  | .mapping _ entries => entries
  | _ => []

def setTag (g : Graph) (n : Nat) (tag : Tag) : Graph :=
  g.setIfInBounds n ⟨tag, g.content n⟩

def setContent (g : Graph) (n : Nat) (content : Content) : Graph :=
  g.setIfInBounds n ⟨g.tag n, content⟩

/-- The number of entries in all mappings. -/
def entryCount (g : Graph) : Nat :=
  g.foldl (fun count v =>
    match v.content with
    | .mapping _ entries => count + entries.length
    | _ => count) 0

end Graph

end MarkdownLint.Yaml
