import MarkdownLint.Consistency

/-!
# Runs of observations

A tracker that accepts a value holds on to it and answers with it to all that differs from it
(`run_of_accepted`).  One that accepts nothing goes by null observations as if they had not been
made (`run_of_undetermined`), and accepts the first other one.  A run from a preference or from none
is made of such stretches, one at most of each kind (`run_accordsWith`).
-/

namespace MarkdownLint.Tracker

variable {α : Type} [BEq α]

/-- Takes note of observations one after the other, with the answer to each. -/
def run (t : Tracker α) : List (Option α) → List (Option α) × Tracker α
  | [] => ([], t)
  | o :: os =>
    let (answer, t) := t.check o
    let (answers, t) := t.run os
    (answer :: answers, t)

/-- The answer where a value is accepted: that value, if the observation is not equal to it.  No
value is equal to null. -/
def deviation (accepted : α) (o : Option α) : Option α :=
  if o.any (· == accepted) then none else some accepted

/-- What is answered to observations under a preference or none, and what is accepted after them:
the preference, or nothing as long as they are null, or the first that is not. -/
inductive AccordsWith : Option α → List (Option α) → List (Option α) → Option α → Prop
  | fixed (preferred : α) (os : List (Option α)) :
    AccordsWith (some preferred) os (os.map (deviation preferred)) (some preferred)
  | undetermined {nulls : List (Option α)} (null : ∀ o ∈ nulls, o = none) :
    AccordsWith none nulls (nulls.map fun _ => none) none
  | determined {nulls : List (Option α)} (null : ∀ o ∈ nulls, o = none) (first : α)
      (os : List (Option α)) :
    AccordsWith none (nulls ++ some first :: os)
      (nulls.map (fun _ => none) ++ none :: os.map (deviation first)) (some first)

section Step

theorem check_of_accepted {t : Tracker α} {accepted : α} (h : t.accepted = some accepted)
    (o : Option α) : t.check o = (deviation accepted o, t) := by
  unfold check
  rw [h]
  cases o <;> rfl

theorem check_of_undetermined {t : Tracker α} (h : t.accepted = none) (o : Option α) :
    t.check o = (none, { t with accepted := o }) := by
  unfold check
  rw [h]

theorem check_fixed (t : Tracker α) (o : Option α) : (t.check o).2.fixed = t.fixed := by
  rcases h : t.accepted with _ | accepted
  · rw [check_of_undetermined h]
  · rw [check_of_accepted h]

end Step

theorem run_cons (t : Tracker α) (o : Option α) (os : List (Option α)) :
    t.run (o :: os) = ((t.check o).1 :: ((t.check o).2.run os).1, ((t.check o).2.run os).2) :=
  rfl

theorem run_append (os os' : List (Option α)) :
    ∀ t : Tracker α, t.run (os ++ os')
      = ((t.run os).1 ++ ((t.run os).2.run os').1, ((t.run os).2.run os').2) := by
  induction os with
  | nil => exact fun t => rfl
  | cons o os ih => simp [run_cons, ih]

theorem run_fixed (os : List (Option α)) : ∀ t : Tracker α, (t.run os).2.fixed = t.fixed := by
  induction os with
  | nil => exact fun t => rfl
  | cons o os ih => simp [run_cons, ih, check_fixed]

theorem run_of_accepted {t : Tracker α} {accepted : α} (h : t.accepted = some accepted) :
    ∀ os : List (Option α), t.run os = (os.map (deviation accepted), t)
  | [] => rfl
  | o :: os => by simp [run_cons, check_of_accepted h, run_of_accepted h os]

theorem run_of_undetermined {t : Tracker α} (h : t.accepted = none) :
    ∀ {nulls : List (Option α)}, (∀ o ∈ nulls, o = none) →
      t.run nulls = (nulls.map fun _ => none, t)
  | [], _ => rfl
  | o :: nulls, hnull => by
    obtain ⟨ho, hnulls⟩ := List.forall_mem_cons.1 hnull
    have hcheck : t.check o = (none, t) := by rw [check_of_undetermined h, ho, ← h]
    simp [run_cons, hcheck, run_of_undetermined h hnulls]

omit [BEq α] in
/-- Observations are all null, or some that are come before the first that is not. -/
theorem all_null_or_exists_first :
    ∀ os : List (Option α), (∀ o ∈ os, o = none)
      ∨ ∃ nulls first rest, os = nulls ++ some first :: rest ∧ ∀ o ∈ nulls, o = none
  | [] => .inl (by simp)
  | some first :: rest => .inr ⟨[], first, rest, rfl, by simp⟩
  | none :: os => by
    rcases all_null_or_exists_first os with hnull | ⟨nulls, first, rest, rfl, hnull⟩
    · exact .inl (List.forall_mem_cons.2 ⟨rfl, hnull⟩)
    · exact .inr ⟨none :: nulls, first, rest, rfl, List.forall_mem_cons.2 ⟨rfl, hnull⟩⟩

theorem accordsWith_run (preferred : Option α) (os : List (Option α)) :
    AccordsWith preferred os ((ofPreference preferred).run os).1
      ((ofPreference preferred).run os).2.accepted := by
  rcases preferred with _ | preferred
  · rcases all_null_or_exists_first os with hnull | ⟨nulls, first, rest, rfl, hnull⟩
    · rw [run_of_undetermined rfl hnull]
      exact .undetermined hnull
    · have hfirst : (ofPreference none : Tracker α).check (some first) = (none, ⟨false, first⟩) :=
        check_of_undetermined rfl (some first)
      rw [run_append, run_of_undetermined rfl hnull, run_cons, hfirst, run_of_accepted rfl]
      exact .determined hnull first rest
  · rw [run_of_accepted rfl]
    exact .fixed preferred os

/-- At every point of a run, with some observations made and others to come, the answers so far and
what is accepted are as the observations so far and the preference have it.  The tracker is fixed
just if there is a preference, and determined just if something is accepted. -/
theorem run_accordsWith (preferred : Option α) (os later : List (Option α)) :
    let start : Tracker α := .ofPreference preferred
    let t := (start.run os).2
    start.run (os ++ later) = ((start.run os).1 ++ (t.run later).1, (t.run later).2)
    ∧ AccordsWith preferred os (start.run os).1 t.accepted
    ∧ t.fixed = preferred.isSome
    ∧ (t.isDetermined ↔ t.accepted ≠ none) :=
  ⟨run_append os later _, accordsWith_run preferred os, run_fixed os _, Option.isSome_iff_ne_none⟩

/-- Zero is accepted after a null observation, and the truth value that is worth as much does not
deviate from it. -/
example :
    ((ofPreference none : Tracker Value).run
      [none, some (.int 0), some (.bool false), none, some (.text "")]).1.map (·.isSome)
    = [false, false, false, true, true] := by
  decide +kernel

end MarkdownLint.Tracker
