import MarkdownLint.Number.Lenient
import MarkdownLint.Value

/-!
# Validation

Reading untrusted values as data of a fixed shape.  A reader answers with what it read or with all
the issues it found, in the order of the fields, each with the path to the value at fault.
-/

namespace MarkdownLint

-- Powers here are the core library's, whatever else the importing module sees.
attribute [local instance (high)] instPowNat

inductive PathStep
  | key (name : String)
  | index (i : Nat)
  deriving DecidableEq

inductive ValueFault
  | missing
  | notInteger
  | unreadableInteger
  | fraction
  | notFinite
  | tooLarge
  | tooSmall (least : Nat)
  | notText
  | notSeverity
  | notList
  | notRecord (name : String)
  | notTruthValue
  | extra
  deriving DecidableEq

namespace ValueFault

def kind : ValueFault → String
  | missing => "missing"
  | notInteger => "int_type"
  | unreadableInteger => "int_parsing"
  | fraction => "int_from_float"
  | notFinite => "finite_number"
  | tooLarge => "int_parsing_size"
  | tooSmall _ => "greater_than_equal"
  | notText => "string_type"
  | notSeverity => "enum"
  | notList => "list_type"
  | notRecord _ => "model_type"
  | notTruthValue => "bool_type"
  | extra => "extra_forbidden"

def message : ValueFault → String
  | missing => "Field required"
  | notInteger => "Input should be a valid integer"
  | unreadableInteger => "Input should be a valid integer, unable to parse string as an integer"
  | fraction => "Input should be a valid integer, got a number with a fractional part"
  | notFinite => "Input should be a finite number"
  | tooLarge => "Unable to parse input string as an integer, exceeded maximum size"
  | tooSmall least => "Input should be greater than or equal to " ++ toString least
  | notText => "Input should be a valid string"
  | notSeverity => "Input should be 'warning', 'error' or 'fatal'"
  | notList => "Input should be a valid list"
  | notRecord name => "Input should be a valid dictionary or instance of " ++ name
  | notTruthValue => "Input should be a valid boolean"
  | extra => "Extra inputs are not permitted"

end ValueFault

structure Issue where
  path : List PathStep
  fault : ValueFault
  deriving DecidableEq

abbrev Validated (α : Type) := Except (List Issue) α

namespace Validated

variable {α β : Type}

def fail (fault : ValueFault) : Validated α :=
  .error [⟨[], fault⟩]

/-- The issues of a part, seen from the whole. -/
def under (step : PathStep) (part : Validated α) : Validated α :=
  part.mapError fun issues => issues.map fun i => { i with path := step :: i.path }

/-- Both parts, or the issues of the first and then those of the second. -/
def both (first : Validated α) (second : Validated β) : Validated (α × β) :=
  match first, second with
  | .ok a, .ok b => .ok (a, b)
  | .ok _, .error issues => .error issues
  | .error issues, .ok _ => .error issues
  | .error issues, .error more => .error (issues ++ more)

def items (read : Value → Validated α) : Nat → List Value → Validated (List α)
  | _, [] => .ok []
  | i, v :: vs =>
    (both ((read v).under (.index i)) (items read (i + 1) vs)).map fun p => p.1 :: p.2

end Validated

namespace Value

variable {α : Type}

/-- The first of some keys under which there is an entry, and what is there. -/
def findKey (entries : List (Value × Value)) : List String → Option (String × Value)
  | [] => none
  | key :: keys =>
    match lookup key entries with
    | some v => some (key, v)
    | none => findKey entries keys

/-- A field that may be given under any of some keys, the first that is there counting. -/
def field (entries : List (Value × Value)) (keys : List String) (absent : Validated α)
    (read : Value → Validated α) : Validated α :=
  match findKey entries keys with
  | some (key, v) => (read v).under (.key key)
  | none => absent.under (.key (keys.headD ""))

def required (entries : List (Value × Value)) (keys : List String)
    (read : Value → Validated α) : Validated α :=
  field entries keys (.fail .missing) read

def optional (entries : List (Value × Value)) (keys : List String) (default : α)
    (read : Value → Validated α) : Validated α :=
  field entries keys (.ok default) read

def readOption (read : Value → Validated α) : Value → Validated (Option α)
  | null => .ok none
  | v => (read v).map some

/-- An integer; truth values, whole numbers of 64 bits and texts that denote one count as well. -/
def readInt : Value → Validated Int
  | bool b => .ok (if b then 1 else 0)
  | int n => .ok n
  | float (.finite s m q) =>
    match (Double.finite s m q).toInt? with
    | some n => if n.natAbs < 2 ^ (63 : Nat) then .ok n else .fail .tooLarge
    | none => .fail .fraction
  | float _ => .fail .notFinite
  | text s =>
    match lenientInt s with
    | .ok n => .ok n
    | .error .tooLong => .fail .tooLarge
    | .error .malformed => .fail .unreadableInteger
  | _ => .fail .notInteger

def readAtLeast (least : Nat) (v : Value) : Validated { n : Nat // least ≤ n } :=
  match v.readInt with
  | .ok n => if h : least ≤ n then .ok ⟨n.toNat, by omega⟩ else .fail (.tooSmall least)
  | .error issues => .error issues

def readText : Value → Validated String
  | text s => .ok s
  | style s => .ok s.name
  | _ => .fail .notText

def readList (read : Value → Validated α) : Value → Validated (List α)
  | list vs => Validated.items read 0 vs
  | tuple vs => Validated.items read 0 vs
  | _ => .fail .notList

def readRecord (name : String) (read : List (Value × Value) → Validated α) : Value → Validated α
  | map entries => read entries
  | _ => .fail (.notRecord name)

end Value

end MarkdownLint
