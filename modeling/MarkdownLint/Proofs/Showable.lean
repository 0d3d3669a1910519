import MarkdownLint.Location
import MarkdownLint.Value.Render
import Mathlib.Algebra.Group.Nat.Defs
import Mathlib.Tactic.Common

/-!
# What messages can show

A message shows integers, alone or inside values.  It is the error it belongs to that is met just if
all of them are short enough to be written (`showing_eq_or`, `LocationError.kind_ofOutOfRange`).  A
value can be shown just if each of its items or entries can (`Value.areShowable_iff`).
-/

namespace MarkdownLint

section Integers

theorem isWritable_of_le {k n : Nat} (h : k ≤ n) (hn : isWritable n) : isWritable k := by
  rw [isWritable, decide_eq_true_eq, Int.natAbs_natCast] at *
  omega

theorem one_lt_tenPow : 1 < 10 ^ mostDigits :=
  Nat.one_lt_pow (by decide) (by decide)

/-- The smallest integer that is too long. -/
theorem not_isWritable_tenPow : ¬ isWritable (10 ^ mostDigits : Nat) := by
  rw [isWritable, Int.natAbs_natCast]
  simp

variable {ε : Type} {tooLong e : ε} {integers : List Int}

theorem showing_of_isWritable (h : ∀ n ∈ integers, isWritable n) :
    showing tooLong integers e = e :=
  if_pos (List.all_eq_true.2 h)

/-- If all integers can be written under some condition, it does not hold where the error is another
one. -/
theorem showing_eq_or {writable : Prop} (h : writable → ∀ n ∈ integers, isWritable n)
    (tooLong e : ε) :
    showing tooLong integers e = e ∨ showing tooLong integers e = tooLong ∧ ¬ writable := by
  rw [showing]
  split_ifs with hall
  · exact .inl rfl
  · exact .inr ⟨rfl, fun hw => hall (List.all_eq_true.2 (h hw))⟩

theorem showing_singleton (tooLong e : ε) (n : Int) :
    showing tooLong [n] e = if isWritable n then e else tooLong := by
  simp [showing]

end Integers

namespace LocationError

theorem ofOutOfRange_offset (o : Int) (length : Nat) :
    ofOutOfRange (.offset o length)
      = if isWritable o then .outOfRange (.offset o length) else .integerTooLong :=
  showing_singleton _ _ o

theorem kind_ofOutOfRange (e : OutOfRange) :
    (ofOutOfRange e).kind
      = if ∀ n ∈ e.shown, isWritable n then "OutOfRangeError" else "ValueError" := by
  rw [ofOutOfRange]
  split_ifs with hall
  · rw [showing_of_isWritable hall]
    rfl
  · rw [showing, if_neg fun h => hall (List.all_eq_true.1 h)]
    rfl

end LocationError

namespace Value

/-- A value holds no integer that is too long. -/
def IsShowable (v : Value) : Prop :=
  v.isShowable

theorem isShowable_int {n : Int} : (int n).IsShowable ↔ isWritable n := by
  simp only [IsShowable, isShowable, isShowableWith]

/-- The items of a list or a tuple. -/
def items? : Value → Option (List Value)
  | list items => some items
  | tuple items => some items
  | _ => none

theorem areShowable_iff {link : Nat → Bool} :
    ∀ {items : List Value}, areShowable link items ↔ ∀ v ∈ items, isShowableWith link v
  | [] => by simp [areShowable]
  | v :: vs => by simp [areShowable, @areShowable_iff link vs]

theorem areShowableEntries_iff {link : Nat → Bool} :
    ∀ {es : List (Value × Value)}, areShowableEntries link es
      ↔ ∀ e ∈ es, isShowableWith link e.1 ∧ isShowableWith link e.2
  | [] => by simp [areShowableEntries]
  | (k, v) :: es => by
    simp only [areShowableEntries, Bool.and_eq_true, @areShowableEntries_iff link es,
      List.forall_mem_cons]

theorem IsShowable.items {v : Value} {items : List Value} (hitems : v.items? = some items)
    (hv : v.IsShowable) : ∀ w ∈ items, w.IsShowable := by
  cases v with
  | list | tuple =>
    cases hitems
    exact areShowable_iff.1 hv
  | _ => cases hitems

theorem IsShowable.entries {v : Value} {es : List (Value × Value)} (hes : v.entries? = some es)
    (hv : v.IsShowable) : ∀ e ∈ es, e.1.IsShowable ∧ e.2.IsShowable := by
  cases v with
  | map | orderedMap =>
    cases hes
    exact areShowableEntries_iff.1 hv
  | _ => cases hes

end Value

end MarkdownLint
