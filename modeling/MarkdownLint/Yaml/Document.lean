import MarkdownLint.TreeDocument
import MarkdownLint.Yaml.Assembly
import MarkdownLint.Yaml.Graph.OfTokens
import MarkdownLint.Yaml.Token.Lexer

/-!
# YAML documents

`Session.read` gives the value of a document.  JSON is a part of YAML, so it reads that as well.
`reader` is what it is to a loader of trees.

Documents read one after the other are not quite independent.  One that begins with a marker
decides on the version of those behind it that do not, up to the next that does; without a directive
it decides for version 1.2.  And a document that cannot be assembled leaves its collections to the
next.
-/

namespace MarkdownLint.Yaml

/-- What documents leave behind: the version of those without a marker at their start, and what was
being assembled. -/
structure Session where
  usual : Version := .v1_2
  assembly : Assembly := {}

namespace Session

/-- Assembles the value of a root.  Once this succeeds there is nothing left to remember. -/
def assemble (s : Session) (version : Version) (graph : Graph) (root : Nat) :
    Except Fault Linked × Session :=
  match (Assembly.readRoot version root).run.run (s.assembly.extend graph) with
  | (.ok root, assembly) => (.ok ⟨root, assembly.collections⟩, { s with assembly := {} })
  | (.error f, assembly) => (.error f, { s with assembly })

/-- Reads a document; one without content is null. -/
def read (s : Session) (text : String) : Except Fault Linked × Session :=
  let heading := do
    let heading ← Heading.ofTokens (tokens s.usual text)
    return (heading, ← heading.version?)
  match heading with
  | .error f => (.error f, s)
  | .ok (heading, asked) =>
    let version := if heading.isPresent then asked.getD .v1_2 else s.usual
    let s := { s with usual := version }
    match s.assembly.graph.addDocument version heading with
    | .error f => (.error f, s)
    | .ok (none, _) => (.ok { root := .null }, s)
    | .ok (some root, graph) => s.assemble version graph root

end Session

/-- What a fault is to those who asked for the value. -/
def Fault.readError : Fault → ReadError
  | unreadable => .unparsable
  | f => .escaping f.kind f.message

/-- The reader of documents in YAML or JSON. -/
def reader : DocumentReader Session := fun content s =>
  let (read, t) := s.read content
  (read.mapError Fault.readError, t)

/-- A loader of documents in YAML or JSON that has not read any yet. -/
def loader (limits : Limits := {}) : Loader Session :=
  { limits, read := reader, state := {} }

end MarkdownLint.Yaml
