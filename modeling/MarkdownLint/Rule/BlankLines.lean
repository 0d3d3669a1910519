import MarkdownLint.Rule

/-!
# Missing blank lines

Reports a block that begins on the line after the one on which the node before it ends.  Nodes in
list items can be excepted.
-/

namespace MarkdownLint.BlankLines

def blockTypes : List String :=
  ["paragraph", "blockquote", "heading", "code", "yaml", "html", "list", "table", "thematicBreak"]

def tightContainer : String := "listItem"

def message : String := "Missing blank line before block node"

def readExcept : Value → Validated Bool
  | .bool b => .ok b
  | _ => .fail .notTruthValue

/-- Issues for the entries other than the one under the key that counts. -/
def extraIssues (used : Option String) : List (Value × Value) → List Issue
  | [] => []
  | (key, _) :: entries =>
    let rest := extraIssues used entries
    match key with
    | .text name => if used = some name then rest else ⟨[.key name], .extra⟩ :: rest
    | _ => ⟨[], .extra⟩ :: rest

/-- A record with at most one field, which has two names. -/
def readRecord (entries : List (Value × Value)) : Validated BlankLineOptions :=
  let keys := ["exceptTightLists", "except_tight_lists"]
  let except := Value.optional entries keys false readExcept
  let extra : Validated Unit :=
    match extraIssues ((Value.findKey entries keys).map (·.1)) entries with
    | [] => .ok ()
    | issues => .error issues
  (except.both extra).map fun (b, _) => ⟨b⟩

def readOption : Value → Except OptionError BlankLineOptions
  | .null => .ok ⟨false⟩
  | .bool true => .ok ⟨false⟩
  | .blankLines o => .ok o
  | v =>
    match v.entries? with
    | some entries => (readRecord entries).mapError .invalid
    | none => .error (.refused ("expected an options mapping, not " ++ v.kindName))

/-- The sibling after a place, if the rule looks at the two: the place is read from the text and
not excepted, and the sibling is a block read from the text. -/
def following? (o : BlankLineOptions) (v : Visit) : Option Node := do
  let parent ← v.parent
  let index ← v.index
  if v.node.isGenerated || (o.exceptTightLists && parent.type = tightContainer) then none
  else
    let next ← parent.children[index + 1]?
    if blockTypes.contains next.type && !next.isGenerated then some next else none

/-- Whether a node begins on the line after the one on which another ends.  The other has to have
an end. -/
def isAdjacent (d : Document) (before after : Node) : Except CheckError Bool := do
  let start ← (d.startLine after).mapError fun e => .report (.location e)
  let stop ← (d.endLine before).mapError fun e => .report (.location e)
  match stop with
  | some line => return start = some (line + 1)
  | none =>
    .error (.crash "TypeError" "unsupported operand type(s) for +: 'NoneType' and 'int'")

def findings (o : BlankLineOptions) (d : Document) : List Visit → Findings
  | [] => {}
  | v :: vs =>
    match following? o v with
    | none => findings o d vs
    | some next =>
      match isAdjacent d v.node next with
      | .error e => { ending := some e }
      | .ok false => findings o d vs
      | .ok true => (findings o d vs).cons ⟨message, .node next none⟩

def check (o : BlankLineOptions) (d : Document) : Findings :=
  findings o d d.visits

def rule (serial : Nat) : Rule :=
  .make serial "no-missing-blank-lines" "Warn when a blank line is missing before a block node."
    readOption Value.blankLines check

end MarkdownLint.BlankLines
