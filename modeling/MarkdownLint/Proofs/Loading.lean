import MarkdownLint.TreeDocument
import MarkdownLint.Proofs.Positions

/-!
# When an entry loads

A step of loading has an outcome and leaves a count of entries.  Sequencing succeeds just if each
part does (`outcome_bind_eq_ok_iff`), so a load that succeeds can be taken apart: an entry loads
just if there is a level and a number left for it, its own checks pass, its keys can be shown, and
its children load one after the other (`build_eq_ok_iff`, `eachFrom_cons_eq_ok_iff`).  Its checks
pass just if its fields are what they should be (`fields_eq_ok_iff`), its span is within the bound
(`boundedSpan_eq_ok_iff`), and no offset is past the end of the text (`offset_le_length`).
-/

namespace MarkdownLint

section Steps

variable {ε α β : Type}

theorem except_bind_eq_ok_iff {x : Except ε α} {f : α → Except ε β} {b : β} :
    (x >>= f) = .ok b ↔ ∃ a, x = .ok a ∧ f a = .ok b := by
  cases x with
  | error e => simp [bind, Except.bind]
  | ok a => simp [bind, Except.bind]

theorem except_map_eq_ok_iff {x : Except ε α} {f : α → β} {b : β} :
    x.map f = .ok b ↔ ∃ a, x = .ok a ∧ b = f a := by
  cases x with
  | error e => simp [Except.map]
  | ok a => simp [Except.map, eq_comm]

/-- What a step of loading comes to from a count of entries, and the count after it. -/
def Loading.outcome (x : Loading α) (count : Nat) : Except LoadError α × Nat :=
  x.run.run count

theorem outcome_pure (a : α) (n : Nat) : Loading.outcome (pure a) n = (.ok a, n) := rfl

theorem outcome_throw (e : LoadError) (n : Nat) :
    Loading.outcome (throw e : Loading α) n = (.error e, n) := rfl

theorem outcome_bind (x : Loading α) (f : α → Loading β) (n : Nat) :
    Loading.outcome (x >>= f) n
      = match x.outcome n with
        | (.ok a, k) => (f a).outcome k
        | (.error e, k) => (.error e, k) := by
  have h : Loading.outcome (x >>= f) n
      = (ExceptT.bindCont f (x.outcome n).1) (x.outcome n).2 := rfl
  rw [h]
  rcases x.outcome n with ⟨e | a, k⟩
  · rfl
  · rfl

theorem outcome_bind_eq_ok_iff {x : Loading α} {f : α → Loading β} {n m : Nat} {b : β} :
    Loading.outcome (x >>= f) n = (.ok b, m)
      ↔ ∃ a k, x.outcome n = (.ok a, k) ∧ (f a).outcome k = (.ok b, m) := by
  rw [outcome_bind]
  rcases x.outcome n with ⟨e | a, k⟩
  · simp
  · simp

end Steps

namespace Source

variable (s : Source)

section Building

theorem enter_outcome (n : Nat) :
    s.enter.outcome n = if s.limits.nodeCount < n + 1 then
      (.error s.limits.nodesExceeded, n + 1) else (.ok n, n + 1) := by
  have h : s.enter.outcome n = Loading.outcome (if s.limits.nodeCount < n + 1 then
      throw s.limits.nodesExceeded else pure n) (n + 1) := rfl
  rw [h]
  split_ifs
  · rfl
  · rfl

theorem enter_eq_ok_iff {n serial k : Nat} :
    s.enter.outcome n = (.ok serial, k)
      ↔ (n : Int) + 1 ≤ s.limits.nodeCount ∧ serial = n ∧ k = n + 1 := by
  rw [enter_outcome]
  split_ifs with hfull
  · simp only [Prod.mk.injEq, reduceCtorEq, false_and, false_iff]
    omega
  · simp only [Prod.mk.injEq, Except.ok.injEq]
    omega

theorem eachFrom_nil (f : Nat → Value → Loading Node) (i n : Nat) :
    (eachFrom f i []).outcome n = (.ok [], n) := rfl

theorem eachFrom_cons_eq_ok_iff {f : Nat → Value → Loading Node} {i n m : Nat} {v : Value}
    {vs : List Value} {nodes : List Node} :
    (eachFrom f i (v :: vs)).outcome n = (.ok nodes, m)
      ↔ ∃ node k rest, (f i v).outcome n = (.ok node, k)
        ∧ (eachFrom f (i + 1) vs).outcome k = (.ok rest, m) ∧ nodes = node :: rest := by
  rw [eachFrom, outcome_bind_eq_ok_iff]
  simp only [outcome_bind_eq_ok_iff, outcome_pure, Prod.mk.injEq, Except.ok.injEq]
  constructor
  · rintro ⟨node, k, hnode, rest, _, hrest, rfl, rfl⟩
    exact ⟨node, k, rest, hnode, hrest, rfl⟩
  · rintro ⟨node, k, rest, hnode, hrest, rfl⟩
    exact ⟨node, k, hnode, rest, m, hrest, rfl, rfl⟩

/-- Each node of a list that loads is what one of the values loads to. -/
theorem exists_of_mem_eachFrom {f : Nat → Value → Loading Node} {node : Node} :
    ∀ {vs : List Value} {i n m : Nat} {nodes : List Node},
      (eachFrom f i vs).outcome n = (.ok nodes, m) → node ∈ nodes →
      ∃ j v k l, (f j v).outcome k = (.ok node, l)
  | [], i, n, m, nodes, h, hmem => by
    rw [eachFrom_nil] at h
    cases h
    cases hmem
  | v :: vs, i, n, m, nodes, h, hmem => by
    obtain ⟨first, k, rest, hfirst, hrest, rfl⟩ := eachFrom_cons_eq_ok_iff.1 h
    rcases List.mem_cons.1 hmem with rfl | hmem
    · exact ⟨i, v, n, k, hfirst⟩
    · exact exists_of_mem_eachFrom hrest hmem

theorem build_zero_ne_ok (way : List Nat) (bound : Option Span) (entry : Value) {n m : Nat}
    {t : Node} : (s.build 0 way bound entry).outcome n ≠ (.ok t, m) := by
  intro h
  rw [build] at h
  obtain ⟨-, k, -, h⟩ := outcome_bind_eq_ok_iff.1 h
  rw [outcome_throw] at h
  cases h

/-- An entry loads just if its number is within the limit, its own checks pass, its children load
after it, one after the other, and the keys of its extra data can be shown. -/
theorem build_eq_ok_iff {levels : Nat} {way : List Nat} {bound : Option Span} {entry : Value}
    {n m : Nat} {t : Node} :
    (s.build (levels + 1) way bound entry).outcome n = (.ok t, m)
      ↔ ∃ f data children, (n : Int) + 1 ≤ s.limits.nodeCount
        ∧ s.fields bound entry = .ok f ∧ f.data = some data
        ∧ (eachFrom (fun i child => s.build levels (i :: way) (f.span.or bound) child) 0
            f.children).outcome (n + 1) = (.ok children, m)
        ∧ t = ⟨n, f.type, children, f.span, f.value, data⟩ := by
  rw [build, outcome_bind_eq_ok_iff]
  constructor
  · rintro ⟨serial, k, hserial, h⟩
    obtain ⟨hroom, rfl, rfl⟩ := s.enter_eq_ok_iff.1 hserial
    split at h
    · rw [outcome_throw] at h
      cases h
    · rename_i f hf
      obtain ⟨children, l, hchildren, h⟩ := outcome_bind_eq_ok_iff.1 h
      split at h
      · rename_i data hdata
        rw [outcome_pure] at h
        cases h
        exact ⟨f, data, children, hroom, hf, hdata, hchildren, rfl⟩
      · rw [outcome_throw] at h
        cases h
  · rintro ⟨f, data, children, hroom, hf, hdata, hchildren, rfl⟩
    refine ⟨n, n + 1, s.enter_eq_ok_iff.2 ⟨hroom, rfl, rfl⟩, ?_⟩
    rw [hf]
    refine outcome_bind_eq_ok_iff.2 ⟨children, m, hchildren, ?_⟩
    rw [hdata]
    rfl

theorem load_eq_ok_iff {root : Value} {t : Node} :
    s.load root = .ok t
      ↔ ∃ m, (s.build (s.limits.treeDepth + 1).toNat [] none root).outcome 0 = (.ok t, m) := by
  have h : s.load root
      = ((s.build (s.limits.treeDepth + 1).toNat [] none root).outcome 0).1 := rfl
  rw [h]
  rcases (s.build (s.limits.treeDepth + 1).toNat [] none root).outcome 0 with ⟨r, m⟩
  simp

end Building

section Checks

variable {s}

/-- The checks of an entry pass just if it is a mapping with a type, whose fields are read one by
one. -/
theorem fields_eq_ok_iff {bound : Option Span} {entry : Value} {f : Fields} :
    s.fields bound entry = .ok f
      ↔ ∃ entries, s.entries? entry = some entries ∧ s.lookup "type" entries = .text f.type
        ∧ f.type ≠ "" ∧ s.boundedSpan bound entries = .ok f.span
        ∧ s.valueOf entries = .ok f.value ∧ s.childrenOf entries = .ok f.children
        ∧ f.data = dataOf entries := by
  rw [fields]
  rcases s.entries? entry with _ | entries
  · simp
  · simp only [Option.some.injEq, exists_eq_left']
    cases s.lookup "type" entries with
    | text type =>
      simp only [Value.text.injEq]
      constructor
      · intro h
        split_ifs at h with hempty
        · cases h
        · simp only [except_bind_eq_ok_iff, mapError_eq_ok_iff] at h
          obtain ⟨span, hspan, value, hvalue, children, hchildren, h⟩ := h
          cases h
          exact ⟨rfl, hempty, hspan, hvalue, hchildren, rfl⟩
      · rintro ⟨rfl, hne, hspan, hvalue, hchildren, hdata⟩
        rw [if_neg hne, hspan, hvalue, hchildren, ← hdata]
        rfl
    | _ => simp

theorem span_eq_ok_iff {position : Value} {span : Span} :
    s.span position = .ok span
      ↔ ∃ ends, position.entries? = some ends
        ∧ s.offset (s.lookup "start" ends) = .ok span.start
        ∧ s.offset (s.lookup "end" ends) = .ok span.stop := by
  rw [Source.span]
  rcases position.entries? with _ | ends
  · simp
  · simp only [except_bind_eq_ok_iff, mapError_eq_ok_iff, Option.some.injEq, exists_eq_left']
    constructor
    · rintro ⟨start, hstart, stop, hstop, h⟩
      split_ifs at h with hle
      cases h
      exact ⟨hstart, hstop⟩
    · rintro ⟨hstart, hstop⟩
      refine ⟨span.start, hstart, span.stop, hstop, ?_⟩
      rw [dif_pos span.start_le_stop]
      rfl

theorem boundedSpan_eq_ok_iff {bound span : Option Span} {entries : List (Value × Value)} :
    s.boundedSpan bound entries = .ok span
      ↔ s.lookup "position" entries = .null ∧ span = none
        ∨ ∃ r, s.lookup "position" entries ≠ .null ∧ s.span (s.lookup "position" entries) = .ok r
          ∧ (∀ b, bound = some b → b.contains r) ∧ span = some r := by
  rw [boundedSpan]
  split
  · rename_i hnull
    constructor
    · rintro ⟨⟩
      exact .inl ⟨hnull, rfl⟩
    · rintro (⟨-, rfl⟩ | ⟨r, hne, -⟩)
      · rfl
      · exact absurd hnull hne
  · rename_i hne
    constructor
    · intro h
      obtain ⟨r, hr, h⟩ := except_bind_eq_ok_iff.1 h
      refine .inr ⟨r, hne, hr, ?_⟩
      rcases bound with _ | parent
      · cases h
        exact ⟨fun b hb => (nomatch hb), rfl⟩
      · simp only [Option.some.injEq, forall_eq']
        dsimp only at h
        split_ifs at h with hcontains
        cases h
        exact ⟨hcontains, rfl⟩
    · rintro (⟨hnull, -⟩ | ⟨r, -, hr, hbound, rfl⟩)
      · exact absurd hnull hne
      · refine except_bind_eq_ok_iff.2 ⟨r, hr, ?_⟩
        rcases bound with _ | parent
        · rfl
        · simp only [hbound parent rfl, if_true]
          rfl

theorem offset_le_length {point : Value} {o : Nat} (h : s.offset point = .ok o) {l : Location}
    (hl : s.location = some l) (horder : l.InOrder) : o ≤ l.length := by
  rw [Source.offset] at h
  split at h
  · split at h
    · simp only [hl] at h
      split at h
      · rw [mapError_eq_ok_iff] at h
        exact l.toOffset_le_length horder h
      · cases h
    · simp only [hl, Option.any_some, decide_eq_true_eq] at h
      split_ifs at h
      cases h
      omega
    · cases h
  · cases h

end Checks

end Source

end MarkdownLint
