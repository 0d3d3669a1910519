import MarkdownLint.Yaml.Graph
import MarkdownLint.Yaml.Scalar
import MarkdownLint.Yaml.Token

/-!
# Graphs from tokens

The grammar of a YAML document: a single root, perhaps between document markers and behind
directives.  The heading of a document is what its directives say.  Each function on what comes
after it reads one production, leaves the tokens behind it, and adds the vertices it makes to the
graph.
-/

namespace MarkdownLint.Yaml

/-! ### Headings -/

/-- What the directives before a document say, and the tokens behind them. -/
structure Heading where
  version : Option (Nat × Nat) := none
  handles : List (String × String) := []
  isPresent : Bool := false
  rest : List Token

namespace Heading

def defaultHandles : List (String × String) :=
  [("!", "!"), ("!!", "tag:yaml.org,2002:")]

/-- Reads directives.  There may be one version, which has to be a version 1, and one expansion for
each handle. -/
def readDirectives (version : Option (Nat × Nat)) (handles : List (String × String)) :
    List Token → Except Fault Heading
  | .fault f :: _ => .error f
  | .directive (.version major minor) :: ts =>
    if version.isSome || major ≠ 1 then .error .unreadable
    else readDirectives (some (major, minor)) handles ts
  | .directive (.handle handle expansion) :: ts =>
    if (handles.lookup handle).isSome then .error .unreadable
    else readDirectives version (handles ++ [(handle, expansion)]) ts
  | .directive .other :: ts => readDirectives version handles ts
  | ts => .ok { version, handles := handles ++ defaultHandles, isPresent := true, rest := ts }

/-- The version a heading asks for, which has to be a known one. -/
def version? (h : Heading) : Except Fault (Option Version) :=
  match h.version with
  | none => .ok none
  | some (major, minor) =>
    match Version.ofNumbers? major minor with
    | some v => .ok (some v)
    | none => .error (.version major minor)

/-- The heading of a document, which is empty before one that starts without a marker. -/
def ofTokens (ts : List Token) : Except Fault Heading :=
  match ts with
  | .fault f :: _ => .error f
  | .directive _ :: _ => readDirectives none [] ts
  | .documentStart :: _ => readDirectives none [] ts
  | _ => .ok { handles := defaultHandles, rest := ts }

end Heading

/-! ### Nodes -/

/-- What is still to be read, the vertices so far, and the numbers of those with an anchor, latest
first. -/
structure ReaderState where
  tokens : List Token
  version : Version
  handles : List (String × String)
  graph : Graph
  anchors : List (String × Nat) := []

abbrev Reader := StateT ReaderState (Except Fault)

namespace Reader

def unreadable {α : Type} : Reader α := throw .unreadable

/-- The next token. -/
def peek : Reader Token := do
  match (← get).tokens with
  | .fault f :: _ => throw f
  | t :: _ => return t
  | [] => return .streamEnd

def drop : Reader Unit :=
  modify fun s => { s with tokens := s.tokens.tail }

/-- Whether the next token is among some. -/
def sees (ts : List Token) : Reader Bool := do
  return ts.contains (← peek)

/-- Adds a vertex, and gives its number. -/
def add (v : Vertex) : Reader Nat := do
  let number := (← get).graph.size
  modify fun s => { s with graph := s.graph.push v }
  return number

/-- Adds a null that is not written. -/
def addEmpty : Reader Nat :=
  add .empty

/-- Says what a vertex is that was added before it was read. -/
def settle (number : Nat) (v : Vertex) : Reader Unit :=
  modify fun s => { s with graph := s.graph.setIfInBounds number v }

def aliased (name : String) : Reader Nat := do
  match (← get).anchors.lookup name with
  | some number => return number
  | none => unreadable

def anchor (name : String) (number : Nat) : Reader Unit :=
  modify fun s => { s with anchors := (name, number) :: s.anchors }

/-- The rest of a tag with its percent signs replaced, each with the two characters behind it, by
the character whose code they are. -/
def decodeSuffix : Nat → List Char → Except Fault (List Char)
  | 0, _ => .ok []
  | _ + 1, [] => .ok []
  | fuel + 1, c :: cs =>
    if c = '%' then do
      let code ← integerInBase 16 (cs.take 2)
      if code < 0 then throw (.codePoint code)
      return charOfCode code.toNat :: (← decodeSuffix fuel (cs.drop 2))
    else (decodeSuffix fuel cs).map (c :: ·)

/-- The tag that a handle and a suffix stand for. -/
def resolveTag (handle : Option String) (suffix : String) : Reader GivenTag := do
  let handles := (← get).handles
  let expansion ← match handle with
    | none => pure ""
    | some handle =>
      match handles.lookup handle with
      | some expansion => pure expansion
      | none => unreadable
  let decoded ← decodeSuffix suffix.length suffix.toList
  let uri := expansion ++ String.ofList decoded
  return if uri = "!" then .byContent else .tag (.ofUri uri)

/-- What may stand before a node, in either order. -/
structure Properties where
  anchor : Option String := none
  tag : Option GivenTag := none

def properties : Reader Properties := do
  match ← peek with
  | .anchor name =>
    drop
    match ← peek with
    | .tag handle suffix => drop; return ⟨some name, some (← resolveTag handle suffix)⟩
    | _ => return ⟨some name, none⟩
  | .tag handle suffix =>
    drop
    match ← peek with
    | .anchor name => drop; return ⟨some name, some (← resolveTag handle suffix)⟩
    | _ => return ⟨none, some (← resolveTag handle suffix)⟩
  | _ => return {}

def collectionTag (usual : Tag) : Option GivenTag → Tag
  | some (.tag t) => t
  | _ => usual

/-- A scalar, whose text decides on its tag if it is plain or if that is asked for. -/
def scalar (text : String) (isPlain : Bool) (given : Option GivenTag) : Reader Vertex := do
  let version := (← get).version
  let tag := match given with
    | some (.tag t) => t
    | some .byContent => Tag.ofPlain version text
    | none => if isPlain then .ofPlain version text else .text
  return ⟨tag, .scalar text⟩

/-- The empty key of a value without one, which version 1.1 does not allow. -/
def missingKey : Reader Nat := do
  if (← get).version = .v1_1 then unreadable else addEmpty

mutual

/-- A node.  Block collections are allowed in `block` context only, and a block sequence without
indentation of its own only as a key or a value of a block mapping. -/
def node : Nat → Bool → Bool → Reader Nat
  | 0, _, _ => unreadable
  | fuel + 1, block, indentless => do
    match ← peek with
    | .alias name => drop; aliased name
    | _ =>
      let given ← properties
      let number ← addEmpty
      given.anchor.forM fun name => anchor name number
      settle number (← content fuel block indentless given)
      return number

/-- A node without its properties. -/
def content : Nat → Bool → Bool → Properties → Reader Vertex
  | 0, _, _, _ => unreadable
  | fuel + 1, block, indentless, given => do
    let sequence (items : List Nat) : Vertex :=
      ⟨collectionTag .sequence given.tag, .sequence items⟩
    let mapping (entries : List Entry) : Vertex :=
      ⟨collectionTag .mapping given.tag, .mapping [] entries⟩
    let otherwise : Reader Vertex :=
      if given.anchor.isSome || given.tag.isSome then scalar "" true given.tag else unreadable
    match ← peek with
    | .blockEntry => if indentless then return sequence (← indentlessItems fuel) else otherwise
    | .scalar text isPlain => drop; scalar text isPlain given.tag
    | .flowSequenceStart => drop; return sequence (← flowItems fuel true)
    | .flowMappingStart => drop; return mapping (← flowEntries fuel true)
    | .blockSequenceStart =>
      if block then drop; return sequence (← blockItems fuel) else otherwise
    | .blockMappingStart =>
      if block then drop; return mapping (← blockEntries fuel) else otherwise
    | _ => otherwise

/-- A node, or an empty one before some tokens. -/
def nodeUnless : Nat → List Token → Bool → Bool → Reader Nat
  | 0, _, _, _ => unreadable
  | fuel + 1, ends, block, indentless => do
    if ← sees ends then addEmpty else node fuel block indentless

def blockItems : Nat → Reader (List Nat)
  | 0 => unreadable
  | fuel + 1 => do
    match ← peek with
    | .blockEntry =>
      drop
      let item ← nodeUnless fuel [.blockEntry, .blockEnd] true false
      return item :: (← blockItems fuel)
    | .blockEnd => drop; return []
    | _ => unreadable

def indentlessItems : Nat → Reader (List Nat)
  | 0 => unreadable
  | fuel + 1 => do
    match ← peek with
    | .blockEntry =>
      drop
      let item ← nodeUnless fuel [.blockEntry, .key, .value, .blockEnd] true false
      return item :: (← indentlessItems fuel)
    | _ => return []

def blockEntries : Nat → Reader (List Entry)
  | 0 => unreadable
  | fuel + 1 => do
    match ← peek with
    | .key =>
      drop
      let key ← nodeUnless fuel [.key, .value, .blockEnd] true true
      let value ← entryValue fuel [.key, .value, .blockEnd] true
      return (key, value) :: (← blockEntries fuel)
    | .value =>
      let key ← missingKey
      let value ← entryValue fuel [.key, .value, .blockEnd] true
      return (key, value) :: (← blockEntries fuel)
    | .blockEnd => drop; return []
    | _ => unreadable

/-- The value behind a key, which is empty if there is no colon or if one of some tokens follows. -/
def entryValue : Nat → List Token → Bool → Reader Nat
  | 0, _, _ => unreadable
  | fuel + 1, ends, block => do
    if ← sees [.value] then
      drop
      nodeUnless fuel ends block block
    else addEmpty

/-- The items of a flow sequence; an item with a key is a mapping of one entry. -/
def flowItems : Nat → Bool → Reader (List Nat)
  | 0, _ => unreadable
  | fuel + 1, first => do
    if ← sees [.flowSequenceEnd] then drop; return []
    else
      if !first then
        if ← sees [.flowEntry] then drop else unreadable
      match ← peek with
      | .flowSequenceEnd => drop; return []
      | .key =>
        drop
        let key ← nodeUnless fuel [.value, .flowEntry, .flowSequenceEnd] false false
        let value ← entryValue fuel [.flowEntry, .flowSequenceEnd] false
        let item ← add ⟨.mapping, .mapping [] [(key, value)]⟩
        return item :: (← flowItems fuel false)
      | _ =>
        let item ← node fuel false false
        return item :: (← flowItems fuel false)

/-- The entries of a flow mapping; a node without a colon is a key with an empty value. -/
def flowEntries : Nat → Bool → Reader (List Entry)
  | 0, _ => unreadable
  | fuel + 1, first => do
    if ← sees [.flowMappingEnd] then drop; return []
    else
      if !first then
        if ← sees [.flowEntry] then drop else unreadable
      match ← peek with
      | .flowMappingEnd => drop; return []
      | .key =>
        drop
        let key ← nodeUnless fuel [.value, .flowEntry, .flowMappingEnd] false false
        let value ← entryValue fuel [.flowEntry, .flowMappingEnd] false
        return (key, value) :: (← flowEntries fuel false)
      | .value =>
        let key ← missingKey
        let value ← entryValue fuel [.flowEntry, .flowMappingEnd] false
        return (key, value) :: (← flowEntries fuel false)
      | _ =>
        let key ← node fuel false false
        let value ← addEmpty
        return (key, value) :: (← flowEntries fuel false)

end

/-- Reads the root of a document, which is absent if the document is. -/
def root (fuel : Nat) (h : Heading) : Reader (Option Nat) := do
  if h.isPresent then
    if ← sees [.documentStart] then
      drop
      match ← peek with
      | .directive _ | .documentStart | .documentEnd | .streamEnd => return some (← addEmpty)
      | _ => return some (← node fuel true false)
    else unreadable
  else if ← sees [.streamEnd] then return none
  else return some (← node fuel true false)

/-- Steps over the marker of the end of a document; in version 1.1 there may be several. -/
def documentEnd : Nat → Reader Unit
  | 0 => return
  | fuel + 1 => do
    if ← sees [.documentEnd] then
      drop
      if (← get).version = .v1_1 then documentEnd fuel

/-- Reads a stream of one document at most.  Behind it directives are read as well, before they are
found to be too much. -/
def stream (fuel : Nat) (h : Heading) : Reader (Option Nat) := do
  let root ← root fuel h
  documentEnd fuel
  if ← sees [.streamEnd] then return root
  else
    let _ ← (← Heading.readDirectives none [] (← get).tokens).version?
    unreadable

end Reader

/-- A graph with the document that some tokens make up, and the number of its root.  Between two
tokens no more than three productions begin. -/
def Graph.addDocument (g : Graph) (version : Version) (h : Heading) :
    Except Fault (Option Nat × Graph) :=
  let start : ReaderState := { tokens := h.rest, version, handles := h.handles, graph := g }
  ((Reader.stream (4 * h.rest.length + 8) h).run start).map fun (root, s) => (root, s.graph)

end MarkdownLint.Yaml
