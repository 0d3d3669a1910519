import MarkdownLint.Node.Build
import MarkdownLint.Number.Grouped
import MarkdownLint.Text.Utf8
import MarkdownLint.Value.Render

/-!
# Tree documents

A document tree in serialized form is a mapping with a `type`, and perhaps a `position`, a `value`
and `children`; whatever else it holds is the extra data of the node.  `Source.load` makes nodes of
it under limits on their number and depth, and stops at the first entry that is malformed.  Entries
are taken in pre-order, each with its own checks before those of its children.  A span has to lie
within that of the nearest node above that has one.

Every entry makes a node of its own, also where several places of the document share a collection.
A document that contains itself has no end in depth, so the limit on the depth stops it.  The extra
data of nodes refers to the collections of the document, which a loaded tree comes with.

An integer that is too long to be written is accepted where it is read, but not where a message or a
key of the extra data has to show it.

Documents are read by a reader that a `Loader` is given.  It may give a value, say that there is
none in the document, or let the error of a part of it through, which loading lets through as well.
-/

namespace MarkdownLint

structure Limits where
  /-- The most characters of a serialized tree. -/
  documentSize : Int := 5000000
  nodeCount : Int := 200000
  treeDepth : Int := 200

/-- One of the two points of a position. -/
inductive PointName
  | start
  | stop
  deriving DecidableEq

/-- The way from the root entry to another one, by indexes among the children, and perhaps to one of
its points. -/
structure EntryPath where
  indexes : List Nat
  point : Option PointName := none
  deriving DecidableEq

def EntryPath.text (p : EntryPath) : String :=
  "root" ++ String.join (p.indexes.map fun i => ".children[" ++ toString i ++ "]")
    ++ match p.point with
      | none => ""
      | some .start => ".position.start"
      | some .stop => ".position.end"

/-- What is wrong with an entry or a point. -/
inductive EntryFault
  | notMapping
  | noType
  | positionNotMapping
  | pointNotMapping
  | invalidOffset (shown : String)
  | offsetPastEnd (offset : Nat)
  | incompletePoint
  | textNeeded
  | outOfRange (e : OutOfRange) (line column : String)
  | endBeforeStart (start stop : Nat)
  | outsideParent (span parent : Span)
  | valueNotText
  | childrenNotList
  | integerTooLong
  deriving DecidableEq

def EntryFault.message : EntryFault → String
  | notMapping => "node must be a mapping"
  | noType => "node has no 'type'"
  | positionNotMapping => "'position' must be a mapping"
  | pointNotMapping => "point must be a mapping"
  | invalidOffset shown => "invalid offset " ++ shown
  | offsetPastEnd offset => "offset " ++ toString offset ++ " is past the end of the text"
  | incompletePoint => "point needs an 'offset' or 'line' and 'column'"
  | textNeeded => "point has no 'offset'; pass the document text to resolve line/column"
  | outOfRange e line column => e.messageWith line column
  | endBeforeStart start stop =>
    "span ends (" ++ toString stop ++ ") before it starts (" ++ toString start ++ ")"
  | outsideParent span parent => "span " ++ span.text ++ " lies outside its parent " ++ parent.text
  | valueNotText => "'value' must be a string"
  | childrenNotList => "'children' must be a list"
  | integerTooLong => tooManyDigitsText ""

/-- The fault of a point outside the text, with its line and its column as the message shows
them. -/
def EntryFault.ofLocation (line column : String) : LocationError → EntryFault
  | .outOfRange e => outOfRange e line column
  | .integerTooLong => integerTooLong

inductive LoadError
  | malformed (path : EntryPath) (fault : EntryFault)
  | unparsable
  | empty
  | tooLarge (size : Nat) (limit : Int)
  | tooManyNodes (limit : Int)
  | tooDeep (limit : Int)
  | integerTooLong
  | reading (kind message : String)
  | undecodable (e : Utf8.DecodeError)
  deriving DecidableEq

namespace LoadError

def kind : LoadError → String
  | malformed _ _ => "MalformedTreeError"
  | unparsable => "MalformedTreeError"
  | empty => "MalformedTreeError"
  | tooLarge _ _ => "TreeSafetyError"
  | tooManyNodes _ => "TreeSafetyError"
  | tooDeep _ => "TreeSafetyError"
  | integerTooLong => "ValueError"
  | reading kind _ => kind
  | undecodable _ => "UnicodeDecodeError"

def message : LoadError → String
  | malformed path fault => path.text ++ ": " ++ fault.message
  | unparsable => "Cannot parse tree document"
  | empty => "Tree document is empty"
  | tooLarge size limit =>
    "Tree document exceeds maximum size (" ++ grouped size ++ " chars > " ++ grouped limit
      ++ " limit)"
  | tooManyNodes limit => "Tree exceeds maximum node count (" ++ grouped limit ++ ")"
  | tooDeep limit => "Tree exceeds maximum depth (" ++ toString limit ++ ")"
  | integerTooLong => tooManyDigitsText ""
  | reading _ message => message
  | undecodable e => e.message

/-- The path of a malformed tree, which is empty where no entry is at fault. -/
def path? : LoadError → Option String
  | malformed path _ => some path.text
  | unparsable => some ""
  | empty => some ""
  | _ => none

/-- The error for a fault of an entry or a point. -/
def ofEntryFault (path : EntryPath) : EntryFault → LoadError
  | .integerTooLong => integerTooLong
  | f => malformed path f

end LoadError

namespace Limits

/-- The error for a serialized tree of more characters than the limit. -/
def sizeExceeded (l : Limits) (size : Nat) : LoadError :=
  showing .integerTooLong [size, l.documentSize] (.tooLarge size l.documentSize)

def nodesExceeded (l : Limits) : LoadError :=
  showing .integerTooLong [l.nodeCount] (.tooManyNodes l.nodeCount)

def depthExceeded (l : Limits) : LoadError :=
  showing .integerTooLong [l.treeDepth] (.tooDeep l.treeDepth)

end Limits

/-- What entries are read against: the limits, the collections that references stand for, and the
line starts of the text if it is known. -/
structure Source where
  limits : Limits := {}
  collections : Array Value := #[]
  location : Option Location := none

/-- A step of loading: it counts the entries met so far, also where it fails, and the count is the
serial number of the next. -/
abbrev Loading := ExceptT LoadError (StateM Nat)

namespace Source

/-- The value itself or, for a reference, the collection it stands for. -/
def resolve (s : Source) : Value → Value
  | .ref n => s.collections.getD n .null
  | v => v

/-- What entries hold under a key, as it is given. -/
def given (key : String) (entries : List (Value × Value)) : Value :=
  (Value.lookup key entries).getD .null

def lookup (s : Source) (key : String) (entries : List (Value × Value)) : Value :=
  s.resolve (given key entries)

/-- The entries of a mapping, perhaps one that a reference stands for. -/
def entries? (s : Source) (v : Value) : Option (List (Value × Value)) :=
  (s.resolve v).entries?

/-- The fault of an offset that is none, with the value in its place. -/
def invalidOffset (s : Source) (v : Value) : EntryFault :=
  let fuel := s.collections.size + 1
  if v.isShowableAmong s.collections fuel [] then
    .invalidOffset (v.renderAmong s.collections fuel [])
  else .integerTooLong

/-- The integer that a line or a column is. -/
def coordinate? : Value → Option Int
  | .int n => some n
  | .bool b => some (if b then 1 else 0)
  | _ => none

/-- The offset of a point. -/
def offset (s : Source) (point : Value) : Except EntryFault Nat :=
  match s.entries? point with
  | some entries =>
    match s.lookup "offset" entries with
    | .null =>
      let line := s.lookup "line" entries
      let column := s.lookup "column" entries
      match coordinate? line, coordinate? column with
      | some l, some c =>
        match s.location with
        | none => .error .textNeeded
        | some location =>
          (location.toOffset l c).mapError (.ofLocation line.label column.label)
      | _, _ => .error .incompletePoint
    | .int n =>
      if n < 0 then .error (showing .integerTooLong [n] (.invalidOffset (toString n)))
      else if s.location.any fun location => location.length < n then
        .error (showing .integerTooLong [n] (.offsetPastEnd n.toNat))
      else .ok n.toNat
    | _ => .error (s.invalidOffset (given "offset" entries))
  | none => .error .pointNotMapping

/-- The span that a position describes, with the point at fault if it does not. -/
def span (s : Source) (position : Value) : Except (Option PointName × EntryFault) Span :=
  match position.entries? with
  | some entries => do
    let start ← (s.offset (s.lookup "start" entries)).mapError fun f => (some .start, f)
    let stop ← (s.offset (s.lookup "end" entries)).mapError fun f => (some .stop, f)
    if h : start ≤ stop then return ⟨start, stop, h⟩
    else .error (none, showing .integerTooLong [start, stop] (.endBeforeStart start stop))
  | none => .error (none, .positionNotMapping)

/-- The span of an entry, which has to be within a bound. -/
def boundedSpan (s : Source) (bound : Option Span) (entries : List (Value × Value)) :
    Except (Option PointName × EntryFault) (Option Span) :=
  match s.lookup "position" entries with
  | .null => .ok none
  | position => do
    let span ← s.span position
    match bound with
    | some parent =>
      if parent.contains span then return some span
      else
        let ends : List Int := [span.start, span.stop, parent.start, parent.stop]
        .error (none, showing .integerTooLong ends (.outsideParent span parent))
    | none => return some span

def valueOf (s : Source) (entries : List (Value × Value)) : Except EntryFault (Option String) :=
  match s.lookup "value" entries with
  | .null => .ok none
  | .text t => .ok (some t)
  | _ => .error .valueNotText

def childrenOf (s : Source) (entries : List (Value × Value)) : Except EntryFault (List Value) :=
  match s.lookup "children" entries with
  | .null => .ok []
  | .list items => .ok items
  | _ => .error .childrenNotList

def reservedKeys : List String := ["type", "children", "position", "value"]

/-- The entries that are no fields of a node, with their keys as texts, unless a key cannot be
shown. -/
def dataOf (entries : List (Value × Value)) : Option (List (String × Value)) :=
  if entries.all fun e => e.1.isShowable then
    some (putEntries [] (entries.filterMap fun (key, value) =>
      match key with
      | .text k => if reservedKeys.contains k then none else some (k, value)
      | k => some (k.label, value)))
  else none

/-- The fields of an entry that passed its own checks. -/
structure Fields where
  type : String
  span : Option Span
  value : Option String
  children : List Value
  data : Option (List (String × Value))

/-- Checks an entry, its children apart. -/
def fields (s : Source) (bound : Option Span) (entry : Value) :
    Except (Option PointName × EntryFault) Fields :=
  match s.entries? entry with
  | some entries =>
    match s.lookup "type" entries with
    | .text type => do
      if type = "" then .error (none, .noType)
      let span ← s.boundedSpan bound entries
      let value ← (s.valueOf entries).mapError fun f => (none, f)
      let children ← (s.childrenOf entries).mapError fun f => (none, f)
      return ⟨type, span, value, children, dataOf entries⟩
    | _ => .error (none, .noType)
  | none => .error (none, .notMapping)

/-- Counts an entry, and gives its serial number. -/
def enter (s : Source) : Loading Nat := do
  let count ← get
  set (count + 1)
  if s.limits.nodeCount < count + 1 then throw s.limits.nodesExceeded
  else return count

/-- Does something for each value, with its index counted from `i`. -/
def eachFrom (f : Nat → Value → Loading Node) : Nat → List Value → Loading (List Node)
  | _, [] => return []
  | i, v :: vs => do
    let node ← f i v
    let nodes ← eachFrom f (i + 1) vs
    return node :: nodes

/-- Makes a node of an entry and of what is below it, in at most `levels` levels.  The way to the
entry is given backwards. -/
def build (s : Source) : Nat → List Nat → Option Span → Value → Loading Node
  | 0, _, _, _ => do
    let _ ← s.enter
    throw s.limits.depthExceeded
  | levels + 1, way, bound, entry => do
    let serial ← s.enter
    match s.fields bound entry with
    | .error (point, fault) => throw (.ofEntryFault ⟨way.reverse, point⟩ fault)
    | .ok f =>
      let children ← eachFrom
        (fun i child => s.build levels (i :: way) (f.span.or bound) child) 0 f.children
      match f.data with
      | some data => return ⟨serial, f.type, children, f.span, f.value, data⟩
      | none => throw .integerTooLong

/-- The tree that a value describes. -/
def load (s : Source) (root : Value) : Except LoadError Node :=
  ((s.build (s.limits.treeDepth + 1).toNat [] none root).run.run 0).1

end Source

/-- A tree with the collections that references in its data stand for. -/
structure LoadedTree where
  root : Node
  collections : Array Value := #[]

/-- Why a reader gives no value: the document cannot be parsed, or an error of something that makes
a part of the value comes through, with its kind and its message. -/
inductive ReadError
  | unparsable
  | escaping (kind message : String)
  deriving DecidableEq

/-- A reader of documents.  What it answers may depend on what earlier documents have left
behind. -/
abbrev DocumentReader (σ : Type) :=
  String → σ → Except ReadError Linked × σ

/-- What trees are loaded under, the reader of their documents, and what the documents read so far
have left behind. -/
structure Loader (σ : Type) where
  limits : Limits := {}
  read : DocumentReader σ
  state : σ

namespace Loader

variable {σ : Type}

/-- Loads a tree from a value, for a text if it is known. -/
def loadValue (l : Loader σ) (root : Value) (text : Option String) :
    Except LoadError LoadedTree := do
  return { root := ← Source.load { limits := l.limits, location := text.map .ofText } root }

/-- Loads a tree from the value of a document. -/
def loadLinked (l : Loader σ) (linked : Linked) (text : Option String) :
    Except LoadError LoadedTree :=
  match linked.root with
  | .null => .error .empty
  | root =>
    let collections := linked.collections
    let source : Source := { limits := l.limits, collections, location := text.map .ofText }
    (source.load root).map fun tree => ⟨tree, collections⟩

/-- Loads a tree from a document. -/
def loadText (l : Loader σ) (content : String) (text : Option String) :
    Except LoadError LoadedTree × Loader σ :=
  if l.limits.documentSize < content.length then
    (.error (l.limits.sizeExceeded content.length), l)
  else
    let (read, state) := l.read content l.state
    let tree := match read with
      | .error .unparsable => .error .unparsable
      | .error (.escaping kind message) => .error (.reading kind message)
      | .ok linked => l.loadLinked linked text
    (tree, { l with state })

/-- Loads a tree from the bytes of a file.  All its line ends are read as line feeds. -/
def loadBytes (l : Loader σ) (bytes : List UInt8) (text : Option String) :
    Except LoadError LoadedTree × Loader σ :=
  match Utf8.decode bytes with
  | .error e => (.error (.undecodable e), l)
  | .ok content => l.loadText (String.ofList (unifyLineEnds content.toList)) text

end Loader

end MarkdownLint
