import MarkdownLint.Value.Render

/-!
# Consistency

Some rules let a document choose one of several ways and ask it to keep to its choice.
`preference` reads a setting that either names the way or asks for consistency.  A `Tracker` holds
the accepted way: the preferred one, or else the first one observed.
-/

namespace MarkdownLint

instance : BEq Value := ⟨Value.same⟩

/-- The setting that asks for consistency. -/
def consistent : String := "consistent"

/-- A setting that is no choice, beside the choices. -/
structure NoChoice where
  choices : List Value
  setting : Value

/-- What is said of a setting that is no choice, which is shown with the choices. -/
def NoChoice.message (e : NoChoice) : String :=
  if e.choices.all Value.isShowable && e.setting.isShowable then
    "Expected " ++ Value.commaSeparated (e.choices.map fun c => quoted c.label) ++ " or "
      ++ quoted consistent ++ ", not " ++ e.setting.render
  else tooManyDigitsText ""

/-- The choice a setting is equal to, the first if there are several, or none if it asks for
consistency. -/
def preference {α : Type} (toValue : α → Value) (choices : List α) (setting : Value) :
    Except NoChoice (Option α) :=
  match setting with
  | .null => .ok none
  | .bool true => .ok none
  | _ =>
    if setting == .text consistent then .ok none
    else
      match choices.find? fun c => setting == toValue c with
      | some choice => .ok (some choice)
      | none => .error ⟨choices.map toValue, setting⟩

/-- What is accepted so far, and whether it was fixed beforehand. -/
structure Tracker (α : Type) where
  fixed : Bool
  accepted : Option α

namespace Tracker

variable {α : Type} [BEq α]

def ofPreference (preferred : Option α) : Tracker α :=
  ⟨preferred.isSome, preferred⟩

omit [BEq α] in
def isDetermined (t : Tracker α) : Bool :=
  t.accepted.isSome

/-- Takes note of an observation.  The answer is the accepted value, if the observation deviates
from it. -/
def check (t : Tracker α) (observed : Option α) : Option α × Tracker α :=
  match t.accepted with
  | none => (none, { t with accepted := observed })
  | some accepted =>
    match observed with
    | some o => (if o == accepted then none else some accepted, t)
    | none => (some accepted, t)

end Tracker

end MarkdownLint
