import MarkdownLint.Rule.BlankLines
import MarkdownLint.Rule.Linebreaks

/-!
# Registries

The rules at hand, each under its id.  A rule can be registered again, but no other rule can take
its id.  A declaration turns a check into a rule and registers that, and it makes new rules each
time.
-/

namespace MarkdownLint

structure Registry where
  rules : List Rule

/-- An id that another rule has. -/
structure IdTaken where
  id : String
  deriving DecidableEq

def IdTaken.message (e : IdTaken) : String :=
  "Rule '" ++ e.id ++ "' is already registered"

namespace Registry

def empty : Registry := ⟨[]⟩

def builtIn : Registry := ⟨[Linebreaks.rule 0, BlankLines.rule 1]⟩

def find? (g : Registry) (id : String) : Option Rule :=
  g.rules.find? (·.id = id)

def register (g : Registry) (r : Rule) : Except IdTaken Registry :=
  match g.find? r.id with
  | none => .ok ⟨g.rules ++ [r]⟩
  | some taken => if taken.serial = r.serial then .ok g else .error ⟨r.id⟩

/-- The registered ids, sorted. -/
def available (g : Registry) : List String :=
  (g.rules.map (·.id)).mergeSort fun a b => !decide (b < a)

def get (g : Registry) (id : String) : Except RuleError Rule :=
  match g.find? id with
  | some r => .ok r
  | none => .error (.unknownRule id g.available)

/-- The registered rules, sorted by id. -/
def all (g : Registry) : List Rule :=
  g.available.filterMap g.find?

end Registry

/-- A check that is to become a rule under an id. -/
structure Declaration where
  id : String
  documentation : Option String := none
  description : String := ""
  readOption : Option (Value → Except OptionError Value) := none
  check : Value → Document → Findings

/-- The rule that is made of a declaration, where `fresh` and all greater serials are free.  It is
made without a reader of options, so that every setting is an option; where a reader is given,
another rule with that takes its place. -/
def Declaration.build (d : Declaration) (fresh : Nat) : Rule :=
  let made : Rule := .make fresh d.id (Rule.describe d.documentation d.description) .ok (·) d.check
  match d.readOption with
  | none => made
  | some readOption => .make (fresh + 1) made.id made.description readOption (·) d.check

namespace Registry

/-- What can be asked of a registry. -/
inductive Call
  | register (r : Rule)
  | declare (d : Declaration)
  | get (id : String)
  | available
  | all

inductive Answer
  | registered (r : Rule)
  | refused (e : IdTaken)
  | found (r : Rule)
  | unknown (e : RuleError)
  | ids (ids : List String)
  | rules (rs : List Rule)

/-- A registry in use: no rule seen so far has the serial `fresh` or a greater one. -/
structure Session where
  registry : Registry
  fresh : Nat

namespace Session

def register (s : Session) (r : Rule) : Answer × Session :=
  let fresh := max s.fresh (r.serial + 1)
  match s.registry.register r with
  | .ok g => (.registered r, ⟨g, fresh⟩)
  | .error e => (.refused e, ⟨s.registry, fresh⟩)

def call (s : Session) : Call → Answer × Session
  | .register r => s.register r
  | .declare d => s.register (d.build s.fresh)
  | .get id =>
    match s.registry.get id with
    | .ok r => (.found r, s)
    | .error e => (.unknown e, s)
  | .available => (.ids s.registry.available, s)
  | .all => (.rules s.registry.all, s)

/-- Makes calls one after the other. -/
def run (s : Session) : List Call → List Answer × Session
  | [] => ([], s)
  | c :: cs =>
    let (a, t) := s.call c
    let (as, u) := t.run cs
    (a :: as, u)

end Session

end Registry

end MarkdownLint
