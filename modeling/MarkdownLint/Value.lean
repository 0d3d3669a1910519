import MarkdownLint.Linebreak
import MarkdownLint.Number.Double
import MarkdownLint.Timestamp

/-!
# Values

What settings and serialized trees are made of.  A value is a finite tree.  Where collections are
shared, or contain themselves, they are kept in a list beside the value, and `ref` stands for the
one with a number.  Mappings and sets keep the order in which their members were given; in an
ordered mapping it takes part in equality.
-/

namespace MarkdownLint

/-- The options of the rule on missing blank lines. -/
structure BlankLineOptions where
  exceptTightLists : Bool
  deriving DecidableEq

inductive Value
  | null
  | bool (b : Bool)
  | int (n : Int)
  | float (x : Double)
  | text (s : String)
  | list (items : List Value)
  | tuple (items : List Value)
  | map (entries : List (Value × Value))
  | orderedMap (entries : List (Value × Value))
  | set (items : List Value)
  | bytes (bytes : List UInt8)
  | date (d : Date)
  | moment (t : Moment)
  | style (s : LinebreakStyle)
  | blankLines (o : BlankLineOptions)
  | ref (number : Nat)
  deriving Inhabited

/-- A value with the collections that its references stand for. -/
structure Linked where
  root : Value
  collections : Array Value := #[]

namespace Value

/-- What a message calls the kind of a value. -/
def kindName : Value → String
  | null => "NoneType"
  | bool _ => "bool"
  | int _ => "int"
  | float _ => "float"
  | text _ => "str"
  | list _ => "list"
  | tuple _ => "tuple"
  | map _ => "dict"
  | orderedMap _ => "ordereddict"
  | set _ => "set"
  | bytes _ => "bytes"
  | date _ => "date"
  | moment _ => "datetime"
  | style _ => "LinebreakStyle"
  | blankLines _ => "MissingBlankLinesOptions"
  | ref _ => "dict"

/-- The integer that an integer, a truth value or a whole number is, or else the number. -/
def number? : Value → Option (Int ⊕ Double)
  | bool b => some (.inl (if b then 1 else 0))
  | int n => some (.inl n)
  | float x => some (x.toInt?.elim (.inr x) .inl)
  | _ => none

/-- The text that a text or a style is. -/
def asText? : Value → Option String
  | text s => some s
  | style s => some s.name
  | _ => none

/-- Equality of values that hold no others: numbers by worth, a style with the text of its name. -/
def sameScalar (a b : Value) : Bool :=
  match a.number?, b.number? with
  | some (.inl m), some (.inl n) => m = n
  | some (.inr x), some (.inr y) => x.same y
  | some _, _ => false
  | none, some _ => false
  | none, none =>
    match a.asText?, b.asText? with
    | some s, some t => s = t
    | some _, none => false
    | none, some _ => false
    | none, none =>
      match a, b with
      | null, null => true
      | bytes x, bytes y => x = y
      | date x, date y => x = y
      | moment x, moment y => x.same y
      | blankLines x, blankLines y => x = y
      | ref m, ref n => m = n
      | _, _ => false

mutual

/-- Equality of values.  Lists and tuples are compared item by item and never with each other,
mappings and sets without regard to order, unless both mappings are ordered. -/
def same : Value → Value → Bool
  | list xs, list ys => sameItems xs ys
  | tuple xs, tuple ys => sameItems xs ys
  | map es, map fs => es.length = fs.length && entriesIn fs es
  | map es, orderedMap fs => es.length = fs.length && entriesIn fs es
  | orderedMap es, map fs => es.length = fs.length && entriesIn fs es
  | orderedMap es, orderedMap fs => sameEntries es fs
  | set xs, set ys => xs.length = ys.length && itemsIn ys xs
  | a, b => sameScalar a b

def sameItems : List Value → List Value → Bool
  | [], [] => true
  | x :: xs, y :: ys => same x y && sameItems xs ys
  | _, _ => false

def sameEntries : List (Value × Value) → List (Value × Value) → Bool
  | [], [] => true
  | (k, v) :: es, (l, w) :: fs => same k l && same v w && sameEntries es fs
  | _, _ => false

/-- Whether every one of some entries is among others. -/
def entriesIn (others : List (Value × Value)) : List (Value × Value) → Bool
  | [] => true
  | (k, v) :: es => others.any (fun f => same k f.1 && same v f.2) && entriesIn others es

/-- Whether every one of some items is among others. -/
def itemsIn (others : List Value) : List Value → Bool
  | [] => true
  | x :: xs => others.any (same x) && itemsIn others xs

end

/-- The entries of a mapping, ordered or not. -/
def entries? : Value → Option (List (Value × Value))
  | map es => some es
  | orderedMap es => some es
  | _ => none

/-- What a list of entries holds under a key that is a text. -/
def lookup (key : String) (entries : List (Value × Value)) : Option Value :=
  (entries.find? fun e => match e.1 with | text s => s = key | _ => false).map (·.2)

end Value

end MarkdownLint
