import MarkdownLint.Proofs.Loading
import MarkdownLint.Proofs.Nesting

/-!
# What is wrong with an entry

The faults of a point (`PointBreaks`), of a position (`PositionBreaks`) and of an entry (`Breaks`)
are said apart from the order in which they are looked for, so an entry may have several.  A point
without one is what stands for an offset (`offset_eq_ok_iff`, `PointAt.not_breaks`), and an entry
that passes its checks has none (`not_breaks_of_fields`).
-/

namespace MarkdownLint

namespace Source

/-- How a message shows a value. -/
def shown (s : Source) (v : Value) : String :=
  v.renderAmong s.collections (s.collections.size + 1) []

/-- The offset that a point stands for, itself or by its line and column. -/
inductive PointAt (s : Source) (point : Value) : Nat → Prop
  | offset {es : List (Value × Value)} {k : Nat} (entries : s.entries? point = some es)
      (given : s.lookup "offset" es = .int k) (le : ∀ l, s.location = some l → k ≤ l.length) :
      PointAt s point k
  | lineColumn {es : List (Value × Value)} {line column : Int} {l : Location} {k : Nat}
      (entries : s.entries? point = some es) (absent : s.lookup "offset" es = .null)
      (line_eq : coordinate? (s.lookup "line" es) = some line)
      (column_eq : coordinate? (s.lookup "column" es) = some column)
      (text : s.location = some l) (offset : l.toOffset line column = .ok k) : PointAt s point k

/-- What is wrong with a point. -/
inductive PointBreaks (s : Source) (point : Value) : EntryFault → Prop
  | notMapping (entries : s.entries? point = none) : PointBreaks s point .pointNotMapping
  | invalidOffset {es : List (Value × Value)} (entries : s.entries? point = some es)
      (present : s.lookup "offset" es ≠ .null) (notNat : ∀ k : Nat, s.lookup "offset" es ≠ .int k) :
      PointBreaks s point (.invalidOffset (s.shown (given "offset" es)))
  | offsetPastEnd {es : List (Value × Value)} {k : Nat} {l : Location}
      (entries : s.entries? point = some es) (given : s.lookup "offset" es = .int k)
      (text : s.location = some l) (past : l.length < k) : PointBreaks s point (.offsetPastEnd k)
  | incomplete {es : List (Value × Value)} (entries : s.entries? point = some es)
      (absent : s.lookup "offset" es = .null)
      (notInteger : coordinate? (s.lookup "line" es) = none
        ∨ coordinate? (s.lookup "column" es) = none) : PointBreaks s point .incompletePoint
  | textNeeded {es : List (Value × Value)} {line column : Int}
      (entries : s.entries? point = some es) (absent : s.lookup "offset" es = .null)
      (line_eq : coordinate? (s.lookup "line" es) = some line)
      (column_eq : coordinate? (s.lookup "column" es) = some column)
      (noText : s.location = none) : PointBreaks s point .textNeeded
  | outOfRange {es : List (Value × Value)} {line column : Int} {l : Location} {e : OutOfRange}
      (entries : s.entries? point = some es) (absent : s.lookup "offset" es = .null)
      (line_eq : coordinate? (s.lookup "line" es) = some line)
      (column_eq : coordinate? (s.lookup "column" es) = some column)
      (text : s.location = some l) (offset : l.findOffset line column = .error e) :
      PointBreaks s point (.outOfRange e (s.lookup "line" es).label (s.lookup "column" es).label)

/-- What is wrong with a position, and at which of its points. -/
inductive PositionBreaks (s : Source) (position : Value) : Option PointName → EntryFault → Prop
  | notMapping (entries : position.entries? = none) :
      PositionBreaks s position none .positionNotMapping
  | start {ends : List (Value × Value)} {f : EntryFault} (entries : position.entries? = some ends)
      (broken : s.PointBreaks (s.lookup "start" ends) f) : PositionBreaks s position (some .start) f
  | stop {ends : List (Value × Value)} {f : EntryFault} (entries : position.entries? = some ends)
      (broken : s.PointBreaks (s.lookup "end" ends) f) : PositionBreaks s position (some .stop) f
  | endBeforeStart {ends : List (Value × Value)} {a b : Nat}
      (entries : position.entries? = some ends) (start : s.PointAt (s.lookup "start" ends) a)
      (stop : s.PointAt (s.lookup "end" ends) b) (lt : b < a) :
      PositionBreaks s position none (.endBeforeStart a b)

/-- What is wrong with an entry that has to lie within a bound. -/
inductive Breaks (s : Source) (bound : Option Span) (entry : Value) :
    Option PointName → EntryFault → Prop
  | notMapping (entries : s.entries? entry = none) : Breaks s bound entry none .notMapping
  | noType {es : List (Value × Value)} (entries : s.entries? entry = some es)
      (noText : ∀ t, s.lookup "type" es = .text t → t = "") : Breaks s bound entry none .noType
  | position {es : List (Value × Value)} {point : Option PointName} {f : EntryFault}
      (entries : s.entries? entry = some es) (present : s.lookup "position" es ≠ .null)
      (broken : s.PositionBreaks (s.lookup "position" es) point f) : Breaks s bound entry point f
  | outsideParent {es ends : List (Value × Value)} {r parent : Span}
      (entries : s.entries? entry = some es)
      (entries' : (s.lookup "position" es).entries? = some ends)
      (start : s.PointAt (s.lookup "start" ends) r.start)
      (stop : s.PointAt (s.lookup "end" ends) r.stop) (bound_eq : bound = some parent)
      (outside : ¬ (parent.start ≤ r.start ∧ r.stop ≤ parent.stop)) :
      Breaks s bound entry none (.outsideParent r parent)
  | valueNotText {es : List (Value × Value)} (entries : s.entries? entry = some es)
      (present : s.lookup "value" es ≠ .null) (notText : ∀ t, s.lookup "value" es ≠ .text t) :
      Breaks s bound entry none .valueNotText
  | childrenNotList {es : List (Value × Value)} (entries : s.entries? entry = some es)
      (present : s.lookup "children" es ≠ .null)
      (notList : ∀ items, s.lookup "children" es ≠ .list items) :
      Breaks s bound entry none .childrenNotList

variable {s : Source}

section Points

variable {point : Value}

/-- An integer is shown by its digits, also where a reference stands for it. -/
theorem shown_given_of_int {es : List (Value × Value)} {n : Int}
    (h : s.lookup "offset" es = .int n) : s.shown (given "offset" es) = toString n := by
  rw [lookup] at h
  have hint : ∀ (fuel : Nat) (within : List Nat),
      (Value.int n).renderAmong s.collections fuel within = toString n
    | 0, _ => rfl
    | _ + 1, _ => rfl
  unfold resolve at h
  split at h
  · rename_i k hk
    have hlink : s.shown (.ref k)
        = (s.collections.getD k .null).renderAmong s.collections s.collections.size [k] := rfl
    rw [hk, hlink, h]
    exact hint _ _
  · rw [h]
    exact hint _ _

theorem offset_eq_ok_iff {k : Nat} : s.offset point = .ok k ↔ s.PointAt point k := by
  constructor
  · intro h
    unfold Source.offset at h
    split at h
    · rename_i es hes
      split at h
      · rename_i hnull
        dsimp only at h
        split at h
        · rename_i l c hl hc
          split at h
          · cases h
          · rename_i location hlocation
            exact .lineColumn hes hnull hl hc hlocation (mapError_eq_ok_iff.1 h)
        · cases h
      · rename_i n hn
        split_ifs at h with hneg hpast
        cases h
        refine .offset hes (by rw [hn, Int.toNat_of_nonneg (by omega)]) fun l hl => ?_
        rw [hl, Option.any_some, decide_eq_true_eq] at hpast
        omega
      · cases h
    · cases h
  · rintro (⟨hes, hk, hle⟩ | ⟨hes, hnull, hl, hc, hlocation, hoffset⟩)
    · unfold Source.offset
      simp only [hes, hk]
      rw [if_neg (by omega), if_neg, Int.toNat_natCast]
      rw [Option.any_eq_true]
      rintro ⟨l, hl, hlt⟩
      have := hle l hl
      rw [decide_eq_true_eq] at hlt
      omega
    · unfold Source.offset
      simp only [hes, hnull, hl, hc, hlocation, hoffset]
      rfl

theorem PointAt.not_breaks {k : Nat} {f : EntryFault} (h : s.PointAt point k) :
    ¬ s.PointBreaks point f := by
  intro hf
  cases h with
  | offset hes hk hle =>
    cases hf with
    | notMapping hno => simp [hes] at hno
    | invalidOffset hes' _ hnat =>
      obtain rfl := Option.some.inj (hes.symm.trans hes')
      exact hnat k hk
    | offsetPastEnd hes' hk' hl' hpast =>
      obtain rfl := Option.some.inj (hes.symm.trans hes')
      have hle := hle _ hl'
      have hsame := Value.int.inj (hk.symm.trans hk')
      omega
    | incomplete hes' hnull | textNeeded hes' hnull | outOfRange hes' hnull =>
      obtain rfl := Option.some.inj (hes.symm.trans hes')
      cases hk.symm.trans hnull
  | lineColumn hes hnull hl hc hlocation hoffset =>
    cases hf with
    | notMapping hno => simp [hes] at hno
    | invalidOffset hes' hpresent =>
      obtain rfl := Option.some.inj (hes.symm.trans hes')
      exact hpresent hnull
    | offsetPastEnd hes' hk' =>
      obtain rfl := Option.some.inj (hes.symm.trans hes')
      cases hnull.symm.trans hk'
    | incomplete hes' _ hno =>
      obtain rfl := Option.some.inj (hes.symm.trans hes')
      simp [hl, hc] at hno
    | textNeeded _ _ _ _ hno => simp [hlocation] at hno
    | outOfRange hes' _ hl' hc' hlocation' ho =>
      obtain rfl := Option.some.inj (hes.symm.trans hes')
      have hfound := mapError_eq_ok_iff.1 hoffset
      simp_all

end Points

section Positions

variable {position : Value} {point : Option PointName} {f : EntryFault}

theorem span_eq_ok_iff_pointAt {r : Span} :
    s.span position = .ok r
      ↔ ∃ ends, position.entries? = some ends ∧ s.PointAt (s.lookup "start" ends) r.start
        ∧ s.PointAt (s.lookup "end" ends) r.stop := by
  simp only [span_eq_ok_iff, offset_eq_ok_iff]

theorem not_positionBreaks_of_span {r : Span} (h : s.span position = .ok r) :
    ¬ s.PositionBreaks position point f := by
  obtain ⟨ends, hends, hstart, hstop⟩ := span_eq_ok_iff_pointAt.1 h
  intro hf
  cases hf with
  | notMapping hno => simp [hends] at hno
  | start hends' hbroken =>
    obtain rfl := Option.some.inj (hends.symm.trans hends')
    exact hstart.not_breaks hbroken
  | stop hends' hbroken =>
    obtain rfl := Option.some.inj (hends.symm.trans hends')
    exact hstop.not_breaks hbroken
  | endBeforeStart hends' ha hb hlt =>
    obtain rfl := Option.some.inj (hends.symm.trans hends')
    have hstart := offset_eq_ok_iff.2 hstart
    have hstop := offset_eq_ok_iff.2 hstop
    rw [offset_eq_ok_iff.2 ha] at hstart
    rw [offset_eq_ok_iff.2 hb] at hstop
    cases hstart
    cases hstop
    exact absurd r.start_le_stop (by omega)

end Positions

section Entries

variable {bound : Option Span} {entry : Value} {point : Option PointName} {f : EntryFault}

theorem PositionBreaks.ne_integerTooLong {position : Value}
    (h : s.PositionBreaks position point f) : f ≠ .integerTooLong := by
  rintro rfl
  cases h with
  | start _ hbroken | stop _ hbroken => cases hbroken

/-- That an integer is too long is no fault of an entry. -/
theorem Breaks.ne_integerTooLong (h : s.Breaks bound entry point f) : f ≠ .integerTooLong := by
  rintro rfl
  cases h with
  | position _ _ hbroken => exact hbroken.ne_integerTooLong rfl

theorem not_breaks_of_fields {fs : Fields} (h : s.fields bound entry = .ok fs) :
    ¬ s.Breaks bound entry point f := by
  obtain ⟨es, hes, htype, hne, hspan, hvalue, hchildren, -⟩ := fields_eq_ok_iff.1 h
  intro hf
  cases hf with
  | notMapping hno => simp [hes] at hno
  | noType hes' hno =>
    obtain rfl := Option.some.inj (hes.symm.trans hes')
    exact hne (hno _ htype)
  | position hes' hpresent hbroken =>
    obtain rfl := Option.some.inj (hes.symm.trans hes')
    rcases boundedSpan_eq_ok_iff.1 hspan with ⟨hnull, -⟩ | ⟨r, -, hr, -, -⟩
    · exact hpresent hnull
    · exact not_positionBreaks_of_span hr hbroken
  | outsideParent hes' hends hstart hstop hbound houtside =>
    obtain rfl := Option.some.inj (hes.symm.trans hes')
    have hr := span_eq_ok_iff_pointAt.2 ⟨_, hends, hstart, hstop⟩
    rcases boundedSpan_eq_ok_iff.1 hspan with ⟨hnull, -⟩ | ⟨r', -, hr', hwithin, -⟩
    · rw [hnull] at hends
      cases hends
    · obtain rfl := Except.ok.inj (hr.symm.trans hr')
      exact houtside (Span.contains_iff.1 (hwithin _ hbound))
  | valueNotText hes' hpresent hnot =>
    obtain rfl := Option.some.inj (hes.symm.trans hes')
    rw [valueOf] at hvalue
    split at hvalue
    · rename_i hnull
      exact hpresent hnull
    · rename_i t ht
      exact hnot t ht
    · cases hvalue
  | childrenNotList hes' hpresent hnot =>
    obtain rfl := Option.some.inj (hes.symm.trans hes')
    rw [childrenOf] at hchildren
    split at hchildren
    · rename_i hnull
      exact hpresent hnull
    · rename_i items hitems
      exact hnot items hitems
    · cases hchildren

end Entries

end Source

end MarkdownLint
