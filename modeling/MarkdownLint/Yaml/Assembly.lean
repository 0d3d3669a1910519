import MarkdownLint.Value.Render
import MarkdownLint.Yaml.Graph
import MarkdownLint.Yaml.Scalar

/-!
# Assembling values

The values that the vertices of a graph denote.  A collection is made empty and filled afterwards,
so that it can be among its own parts: those made while a root is read are filled in rounds, each
round filling what the one before it made.  So the faults of a level come before those of the levels
below.  A key is needed at once and is therefore filled as soon as it is made, with all that is in
it; but what was made earlier and waits to be filled is still empty when a key refers to it, and
what is still being made is null.

Mappings take in what they merge before they are filled (`flatten`).  This changes the graph for all
that refer to them.

Where reading ends in a fault, collections may be left that wait to be filled, and the reading of a
key that was not finished still counts as one.  `Assembly` holds all of that for the next document,
before whose own collections the older ones are filled.
-/

namespace MarkdownLint.Yaml

/-- How far the value of a vertex has come. -/
inductive Progress
  | untouched
  | begun
  | made (v : Value)

instance : Inhabited Progress := ⟨.untouched⟩

/-- The graph that is read, the collections made for it, by number, and the vertices with the
numbers of those that wait to be filled. -/
structure Assembly where
  graph : Graph := #[]
  progress : Array Progress := #[]
  collections : Array Value := #[]
  waiting : Array (Nat × Nat) := #[]
  /-- Whether collections are filled as soon as they are made. -/
  inKey : Bool := false

/-- A step of assembling, which leaves a mark also where it fails. -/
abbrev Assembling := ExceptT Fault (StateM Assembly)

namespace Assembly

def unreadable {α : Type} : Assembling α := throw .unreadable

def content (n : Nat) : Assembling Content := do
  return (← get).graph.content n

def entries (n : Nat) : Assembling (List Entry) := do
  return (← get).graph.entries n

def setContent (n : Nat) (c : Content) : Assembling Unit :=
  modify fun s => { s with graph := s.graph.setContent n c }

def setProgress (n : Nat) (p : Progress) : Assembling Unit :=
  modify fun s => { s with progress := s.progress.setIfInBounds n p }

def collection (number : Nat) : Assembling Value := do
  return (← get).collections.getD number .null

def setCollection (number : Nat) (v : Value) : Assembling Unit :=
  modify fun s => { s with collections := s.collections.setIfInBounds number v }

/-! ### Merging -/

/-- A lone equals sign is a text when it is a key. -/
def settleKeys (entries : List Entry) : Assembling Unit :=
  modify fun s => { s with
    graph := entries.foldl (fun g e =>
      if g.tag e.1 = .defaultValue then g.setTag e.1 .text else g) s.graph }

/-- The entries up to the first that asks for a merge, and those from it on. -/
def spanMerge (entries : List Entry) : Assembling (List Entry × List Entry) := do
  let graph := (← get).graph
  return entries.span fun e => graph.tag e.1 ≠ .merge

mutual

/-- Replaces the entry of a mapping that asks for a merge by what it asks for; `merged` is what one
before it brought in, and only one may do so. -/
def flatten : Nat → Nat → List Entry → Assembling Unit
  | 0, _, _ => unreadable
  | fuel + 1, n, merged => do
    let (before, behind) ← spanMerge (← entries n)
    settleKeys before
    match behind with
    | [] => if merged ≠ [] then setContent n (.mapping merged (merged ++ before))
    | (_, source) :: after =>
      if merged ≠ [] then unreadable
      match ← content n with
      | .mapping earlier _ => setContent n (.mapping earlier (before ++ after))
      | _ => unreadable
      flatten fuel n (← mergedEntries fuel source)

/-- The entries that a mapping, or a sequence of mappings of which the first prevails, brings in. -/
def mergedEntries : Nat → Nat → Assembling (List Entry)
  | 0, _ => unreadable
  | fuel + 1, source => do
    match ← content source with
    | .mapping _ _ => do
      flatten fuel source []
      entries source
    | .sequence items => do
      let parts ← items.mapM fun item => do
        match ← content item with
        | .mapping _ _ => do
          flatten fuel item []
          entries item
        | _ => unreadable
      return parts.reverse.flatten
    | .scalar _ => unreadable

end

/-! ### Scalars -/

/-- The text of a vertex that is read as a scalar; a mapping stands for what it holds under a lone
equals sign. -/
def scalarText : Nat → Nat → Assembling String
  | 0, _ => unreadable
  | fuel + 1, n => do
    let graph := (← get).graph
    match graph.content n with
    | .scalar text => return text
    | .mapping _ entries =>
      match entries.find? fun e => graph.tag e.1 = .defaultValue with
      | some e => scalarText fuel e.2
      | none => unreadable
    | .sequence _ => unreadable

/-- The text of a timestamp, for which no mapping can stand. -/
def timestampText (n : Nat) : Assembling String := do
  match ← content n with
  | .scalar text => return text
  | _ => unreadable

/-- Reads a vertex as a scalar.  Its number makes it differ from others that are no numbers. -/
def readScalar (limit : Nat) (version : Version) (tag : Tag) (n : Nat) : Assembling Value := do
  let text ← if tag = .timestamp then timestampText n else scalarText limit n
  match tag.read version (n + 1) text with
  | .ok v => return v
  | .error f => throw f

/-! ### Entries -/

mutual

/-- What the first part of a value that cannot be looked up is called. -/
def unhashable? (collections : Array Value) : Value → Option String
  | .ref number => some (collections.getD number .null).kindName
  | .tuple items => unhashablePart? collections items
  | _ => none

def unhashablePart? (collections : Array Value) : List Value → Option String
  | [] => none
  | v :: vs => (unhashable? collections v).or (unhashablePart? collections vs)

end

/-- Refuses a value that cannot be looked up. -/
def checkHashable (v : Value) : Assembling Unit := do
  match unhashable? (← get).collections v with
  | some kind => throw (.unhashable kind)
  | none => return

/-- The key that a value is: a list gives the tuple of what is in it now, and no other collection is
a key. -/
def keyOf (v : Value) : Assembling Value := do
  match v with
  | .ref number =>
    match ← collection number with
    | .list items => return .tuple items
    | _ => unreadable
  | v => return v

/-- What is wrong with a key that comes twice.  Saying so shows it with both values. -/
def repetition (key value earlier : Value) : Assembling Fault := do
  let collections := (← get).collections
  let shown (v : Value) := v.isShowableAmong collections (collections.size + 1) []
  return if shown key && shown value && shown earlier then .unreadable else .integerTooLong

/-- Reads entries, given how to make the value of a vertex, at once if it is needed as a key.  Keys
have to differ if they are to be unique; otherwise a later value replaces the earlier one. -/
def readEntries (make : Bool → Nat → Assembling Value) (unique : Bool) (entries : List Entry) :
    Assembling (List (Value × Value)) :=
  entries.foldlM (fun known e => do
    let key ← keyOf (← make true e.1)
    let value ← make false e.2
    checkHashable key
    match known.find? (key.same ·.1) with
    | some (_, earlier) =>
      if unique then throw (← repetition key value earlier)
      return known.map fun e => if key.same e.1 then (e.1, value) else e
    | none => return known ++ [(key, value)]) []

/-- The entries of a mapping.  Keys have to differ unless something was merged. -/
def readMapping (limit : Nat) (make : Bool → Nat → Assembling Value) (n : Nat) :
    Assembling (List (Value × Value)) := do
  match ← content n with
  | .mapping _ _ => do
    flatten limit n []
    match ← content n with
    | .mapping [] entries => readEntries make true entries
    | .mapping merged entries => do
      let _ ← readEntries make false merged
      readEntries make false entries
    | _ => unreadable
  | _ => unreadable

/-- The key and the value of a mapping with one entry. -/
def onlyEntry (n : Nat) : Assembling Entry := do
  match ← content n with
  | .mapping _ [e] => return e
  | _ => unreadable

/-- Adds the entry that a vertex is to an ordered mapping, whose keys differ. -/
def addOrdered (make : Bool → Nat → Assembling Value) (number : Nat) (n : Nat) :
    Assembling Unit := do
  let e ← onlyEntry n
  let key ← make false e.1
  checkHashable key
  let known ← collection number
  if (known.entries?.getD []).any (key.same ·.1) then throw .repeatedKey
  let value ← make false e.2
  match ← collection number with
  | .orderedMap entries => setCollection number (.orderedMap (entries ++ [(key, value)]))
  | _ => unreadable

/-- Adds the entry that a vertex is to a list of pairs. -/
def addPair (make : Bool → Nat → Assembling Value) (number : Nat) (n : Nat) : Assembling Unit := do
  let e ← onlyEntry n
  let key ← make false e.1
  let value ← make false e.2
  match ← collection number with
  | .list items => setCollection number (.list (items ++ [.tuple [key, value]]))
  | _ => unreadable

/-! ### Collections -/

/-- What a collection with a tag is before it is filled. -/
def blank? : Tag → Option Value
  | .sequence => some (.list [])
  | .mapping => some (.map [])
  | .set => some (.set [])
  | .orderedMapping => some (.orderedMap [])
  | .pairs => some (.list [])
  | _ => none

/-- Fills the collection with a number with what a vertex holds. -/
def fill (limit : Nat) (make : Bool → Nat → Assembling Value) (n number : Nat) :
    Assembling Unit := do
  let graph := (← get).graph
  match graph.tag n, graph.content n with
  | .sequence, .sequence items => setCollection number (.list (← items.mapM (make false)))
  | .mapping, _ => setCollection number (.map (← readMapping limit make n))
  | .set, _ => setCollection number (.set ((← readMapping limit make n).map (·.1)))
  | .orderedMapping, .sequence items => items.forM (addOrdered make number)
  | .pairs, .sequence items => items.forM (addPair make number)
  | _, _ => unreadable

/-- Makes a collection that is still to be filled. -/
def addCollection (blank : Value) : Assembling Nat := do
  let number := (← get).collections.size
  modify fun s => { s with collections := s.collections.push blank }
  return number

def wait (n number : Nat) : Assembling Unit :=
  modify fun s => { s with waiting := s.waiting.push (n, number) }

/-- The value of a vertex, with collections in it filled if it is a key.  A vertex that is being
made is null as a part of itself; where it is a key of its own, it is not seen that the key ends. -/
def make (limit : Nat) (version : Version) : Nat → Bool → Nat → Assembling Value
  | 0, _, _ => unreadable
  | fuel + 1, isKey, n => do
    match (← get).progress.getD n .untouched with
    | .made v => return v
    | progress => do
      let wasInKey := (← get).inKey
      if isKey then modify fun s => { s with inKey := true }
      if let .begun := progress then return .null
      setProgress n .begun
      let tag := (← get).graph.tag n
      let v ← match blank? tag with
        | none => readScalar limit version tag n
        | some blank => do
          let number ← addCollection blank
          if (← get).inKey then fill limit (make limit version fuel) n number
          else wait n number
          pure (.ref number)
      setProgress n (.made v)
      if isKey then modify fun s => { s with inKey := wasInKey }
      return v

/-- Fills what waits, round by round. -/
def fillWaiting (limit : Nat) (version : Version) : Nat → Assembling Unit
  | 0 => unreadable
  | rounds + 1 => do
    let waiting := (← get).waiting
    if waiting.isEmpty then return
    modify fun s => { s with waiting := #[] }
    waiting.forM fun (n, number) => fill limit (make limit version limit) n number
    fillWaiting limit version rounds

/-- The value of a document with a root.  The vertices and entries are as many as any of the steps
here can go deep. -/
def readRoot (version : Version) (root : Nat) : Assembling Value := do
  let graph := (← get).graph
  let limit := 2 * (graph.size + graph.entryCount) + 2
  let v ← make limit version limit false root
  fillWaiting limit version limit
  return v

/-- An assembly with a larger graph. -/
def extend (s : Assembly) (graph : Graph) : Assembly :=
  { s with
    graph
    progress := s.progress ++ Array.replicate (graph.size - s.progress.size) .untouched }

end Assembly

end MarkdownLint.Yaml
