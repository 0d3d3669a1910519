import MarkdownLint.Text.Blank

/-!
# Dotenv files

A dotenv file assigns texts to names, one assignment on a line, perhaps behind the word `export`.
A value may stand in quotes, and then span lines and hold escapes; a value without quotes ends at
the end of its line or at a comment.  A line that is no assignment is passed over.  Afterwards
references to other variables in the values are replaced (`Dotenv.expand`).
-/

namespace MarkdownLint.Dotenv

/-- A name with the text assigned to it, or without if the line has no equals sign. -/
structure Binding where
  name : String
  value : Option String
  deriving DecidableEq

def isLineEnd (c : Char) : Bool :=
  c = '\n' || c = '\r'

/-- A blank within a line. -/
def isInnerBlank (c : Char) : Bool :=
  isBlank c && !isLineEnd c

/-- The text up to the closing quote, escapes included, and what is behind it.  The character behind
a backslash closes nothing, and is not a line feed. -/
def upToQuote (quote : Char) : List Char → Option (List Char × List Char)
  | [] => none
  | '\\' :: c :: cs =>
    if c = '\n' then none
    else (upToQuote quote cs).map fun (text, behind) => ('\\' :: c :: text, behind)
  | c :: cs =>
    if c = quote then some ([], cs)
    else if c = '\\' then none
    else (upToQuote quote cs).map fun (text, behind) => (c :: text, behind)

/-- What a letter behind a backslash stands for between double quotes. -/
def escapedChar? : Char → Option Char
  | '\\' => some '\\'
  | '\'' => some '\''
  | '"' => some '"'
  | 'a' => some '\x07'
  | 'b' => some '\x08'
  | 'f' => some '\x0c'
  | 'n' => some '\n'
  | 'r' => some '\r'
  | 't' => some '\t'
  | 'v' => some '\x0b'
  | _ => none

/-- Between single quotes only the backslash and the quote itself are escaped. -/
def replaceEscapes (quote : Char) : List Char → List Char
  | '\\' :: c :: cs =>
    match if quote = '"' ∨ c = '\\' ∨ c = '\'' then escapedChar? c else none with
    | some replacement => replacement :: replaceEscapes quote cs
    | none => '\\' :: replaceEscapes quote (c :: cs)
  | c :: cs => c :: replaceEscapes quote cs
  | [] => []

/-- Drops a comment behind a blank. -/
def dropComment : List Char → List Char
  | [] => []
  | c :: cs =>
    if isBlank c && (cs.dropWhile isBlank).head? = some '#' then [] else c :: dropComment cs

/-- Drops the word `export` if a blank follows. -/
def dropExport (cs : List Char) : List Char :=
  if cs.take 6 = "export".toList ∧ (cs[6]?).any isInnerBlank then
    (cs.drop 6).dropWhile isInnerBlank
  else cs

/-- A name at the start of a line: none before a comment. -/
def readName (cs : List Char) : Except (List Char) (Option (List Char) × List Char) :=
  match cs with
  | '#' :: _ => .ok (none, cs)
  | '\'' :: inner =>
    match inner.span (· ≠ '\'') with
    | (c :: name, _ :: behind) => .ok (some (c :: name), behind)
    | _ => .error cs
  | _ =>
    match cs.span fun c => !(c = '=' || c = '#' || isBlank c) with
    | ([], _) => .error cs
    | (name, behind) => .ok (some name, behind)

/-- A value behind the equals sign, which is empty if there are only blanks before a comment. -/
def readValue (behind : List Char) : Except (List Char) (List Char × List Char) :=
  let cs := behind.dropWhile isInnerBlank
  match cs with
  | [] => .ok ([], [])
  | c :: inner =>
    if c = '#' ∧ cs.length < behind.length then .ok ([], cs)
    else if c = '\'' ∨ c = '"' then
      match upToQuote c inner with
      | some (text, behind) => .ok (replaceEscapes c text, behind)
      | none => .error cs
    else
      let (line, behind) := cs.span (!isLineEnd ·)
      .ok (((dropComment line).reverse.dropWhile isBlank).reverse, behind)

/-- Steps over a line end. -/
def dropLineEnd : List Char → List Char
  | '\r' :: '\n' :: cs => cs
  | c :: cs => if isLineEnd c then cs else c :: cs
  | [] => []

/-- Steps over a comment and the line end, if nothing else is there. -/
def readLineEnd (cs : List Char) : Except (List Char) (List Char) :=
  let text := cs.dropWhile isInnerBlank
  let behind := if text.head? = some '#' then text.dropWhile (!isLineEnd ·) else text
  match behind with
  | [] => .ok []
  | c :: _ => if isLineEnd c then .ok (dropLineEnd behind) else .error behind

/-- Reads one assignment, or else says where reading stopped. -/
def readBinding (cs : List Char) : Except (List Char) (Option Binding × List Char) := do
  let (name, behind) ← readName (dropExport cs)
  let (value, behind) ← match behind.dropWhile isInnerBlank with
    | '=' :: behind => do
      let (value, behind) ← readValue behind
      pure (some (String.ofList value), behind)
    | behind => pure (none, behind)
  let behind ← readLineEnd behind
  return (name.map fun name => ⟨String.ofList name, value⟩, behind)

/-- Reads assignments; after one that is none the rest of the line is passed over. -/
def readFrom : Nat → List Char → List Binding
  | 0, _ => []
  | fuel + 1, cs =>
    match cs.dropWhile isBlank with
    | [] => []
    | cs =>
      match readBinding cs with
      | .ok (binding, behind) => binding.toList ++ readFrom fuel behind
      | .error stopped => readFrom fuel (dropLineEnd (stopped.dropWhile (!isLineEnd ·)))

/-- The assignments of a file, in order.  A byte order mark at its start is no part of it. -/
def read (text : String) : List Binding :=
  let cs := match text.toList with
    | '\uFEFF' :: cs => cs
    | cs => cs
  readFrom (cs.length + 1) cs

/-- Replaces references: a name in braces behind a dollar sign, perhaps with a default behind a
colon and a dash. -/
def expandChars (lookup : String → Option String) : Nat → List Char → List Char
  | 0, cs => cs
  | _ + 1, [] => []
  | fuel + 1, c :: cs =>
    match c, cs with
    | '$', '\x7b' :: inner =>
      let (name, behind) := inner.span fun d => d ≠ '\x7d' && d ≠ ':'
      let known := lookup (String.ofList name)
      match behind with
      | '\x7d' :: rest => (known.getD "").toList ++ expandChars lookup fuel rest
      | ':' :: '-' :: tail =>
        match tail.span (· ≠ '\x7d') with
        | (default, _ :: rest) =>
          (known.getD (String.ofList default)).toList ++ expandChars lookup fuel rest
        | _ => c :: expandChars lookup fuel cs
      | _ => c :: expandChars lookup fuel cs
    | _, _ => c :: expandChars lookup fuel cs

/-- Assigns a value to a name, in the place where the name first came. -/
def assign (known : List Binding) (b : Binding) : List Binding :=
  if known.any (·.name = b.name) then
    known.map fun v => if v.name = b.name then b else v
  else known ++ [b]

/-- The value a reference stands for: that of the file so far, or else that of the environment.  A
name without a value stands for nothing. -/
def valueOf (environment : List (String × String)) (known : List Binding) (name : String) :
    Option String :=
  match known.find? (·.name = name) with
  | some v => some (v.value.getD "")
  | none => environment.lookup name

/-- The variables of a file with their references replaced by what is known so far. -/
def expand (environment : List (String × String)) (bindings : List Binding) : List Binding :=
  bindings.foldl (fun known b =>
    assign known { b with
      value := b.value.map fun text =>
        String.ofList (expandChars (valueOf environment known) (text.length + 1) text.toList) })
    []

end MarkdownLint.Dotenv
