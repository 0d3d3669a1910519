import MarkdownLint.Node.Build
import MarkdownLint.Proofs.Loading
import MarkdownLint.Proofs.Places
import Mathlib.Data.List.Forall2

/-!
# Building a blueprint

Every blueprint makes a node of its parts below, of the span between its ends, and of the fields
that its outline shows (`buildFrom_eq_ok_iff`, `makes_of_buildFrom`).  It can be built just if
everywhere in it both ends are in the text and in order (`everywhere_resolves_iff`); which is met
first, a fault of the blueprint itself or one below it, changes the error but not that there is one.
-/

namespace MarkdownLint.Blueprint

/-- The parts right below a blueprint. -/
def children : Blueprint → List Blueprint
  | root children => children
  | text _ _ _ => []
  | generated _ _ _ children => children
  | node _ _ _ _ _ children => children

mutual

/-- The tree of a blueprint without its spans. -/
def outline : Blueprint → Node
  | root children => ⟨0, "root", outlines children, none, none, []⟩
  | text value _ _ => ⟨0, "text", [], none, some value, []⟩
  | generated type value data children => ⟨0, type, outlines children, none, value, data⟩
  | node type _ _ value data children => ⟨0, type, outlines children, none, value, data⟩

def outlines : List Blueprint → List Node
  | [] => []
  | b :: bs => outline b :: outlines bs

end

theorem outlines_eq_map (bs : List Blueprint) : outlines bs = bs.map outline := by
  induction bs with
  | nil => rfl
  | cons b bs ih => rw [outlines, ih, List.map_cons]

theorem outline_children (b : Blueprint) : b.outline.children = b.children.map outline := by
  cases b <;> simp [outline, children, outlines_eq_map]

theorem sizeOf_lt_of_mem {b c : Blueprint} (h : c ∈ b.children) : sizeOf c < sizeOf b := by
  cases b with
  | text => cases h
  | root | generated | node =>
    have := List.sizeOf_lt_of_mem h
    simp only [root.sizeOf_spec, generated.sizeOf_spec, node.sizeOf_spec, children] at *
    omega

/-- A property that goes up from the parts of a blueprint to the blueprint holds of all. -/
@[elab_as_elim]
theorem childInduction {motive : Blueprint → Prop}
    (step : ∀ b, (∀ c ∈ b.children, motive c) → motive b) (b : Blueprint) : motive b :=
  step b fun c _ => childInduction step c
termination_by sizeOf b
decreasing_by exact sizeOf_lt_of_mem ‹_›

/-- A property of a blueprint and of all parts of it. -/
inductive Everywhere (P : Blueprint → Prop) : Blueprint → Prop
  | intro {b : Blueprint} (here : P b) (below : ∀ c ∈ b.children, Everywhere P c) :
    Everywhere P b

theorem everywhere_iff {P : Blueprint → Prop} {b : Blueprint} :
    b.Everywhere P ↔ P b ∧ ∀ c ∈ b.children, c.Everywhere P :=
  ⟨fun ⟨here, below⟩ => ⟨here, below⟩, fun ⟨here, below⟩ => ⟨here, below⟩⟩

section Spans

variable {l : Location} {b : Blueprint} {start stop : LineColumn} {r : Span}

/-- The line and the column of each end of the span that a blueprint asks for, which for a root is
the whole text. -/
inductive Ends (l : Location) : Blueprint → Option (LineColumn × LineColumn) → Prop
  | root {children : List Blueprint} {p : Position} (h : l.toPosition l.length = .ok p) :
    Ends l (root children) (some ((1, 1), (p.line, p.column)))
  | text {value : String} {start stop : LineColumn} :
    Ends l (text value start stop) (some (start, stop))
  | generated {type : String} {value : Option String} {data : List (String × Value)}
      {children : List Blueprint} : Ends l (generated type value data children) none
  | node {type : String} {start stop : LineColumn} {value : Option String}
      {data : List (String × Value)} {children : List Blueprint} :
    Ends l (node type start stop value data children) (some (start, stop))

/-- A span goes from one end to the other. -/
structure Between (l : Location) (ends : LineColumn × LineColumn) (r : Span) : Prop where
  start : l.toOffset ends.1.1 ends.1.2 = .ok r.start
  stop : l.toOffset ends.2.1 ends.2.2 = .ok r.stop

/-- Both ends of the span are in the text, and it does not end before it starts. -/
def Resolves (l : Location) (b : Blueprint) : Prop :=
  ∀ ends, b.Ends l (some ends) → ∃ r, Between l ends r

/-- A tree has the fields and the data of a blueprint at every place, and its spans go from one end
to the other. -/
inductive Makes (l : Location) : Blueprint → Node → Prop
  | node {b : Blueprint} {ends : Option (LineColumn × LineColumn)} {serial : Nat}
      {ts : List Node} {span : Option Span} (asks : b.Ends l ends)
      (spans : Option.Rel (Between l) ends span) (below : List.Forall₂ (Makes l) b.children ts) :
    Makes l b ⟨serial, b.outline.type, ts, span, b.outline.value, b.outline.data⟩

/-- The span of the node that a blueprint makes. -/
def ownSpan (l : Location) : Blueprint → Except BuildError (Option Span)
  | root _ => .ok (some l.whole)
  | text _ start stop => (spanBetween l start stop).map some
  | generated _ _ _ _ => .ok none
  | node _ start stop _ _ _ => (spanBetween l start stop).map some

theorem Between.unique {ends : LineColumn × LineColumn} {r' : Span} (h : Between l ends r)
    (h' : Between l ends r') : r = r' := by
  have hstart : r.start = r'.start := Except.ok.inj (h.start.symm.trans h'.start)
  have hstop : r.stop = r'.stop := Except.ok.inj (h.stop.symm.trans h'.stop)
  cases r
  cases r'
  simp_all

theorem spanBetween_eq_ok_iff : spanBetween l start stop = .ok r ↔ Between l (start, stop) r := by
  simp only [spanBetween, except_bind_eq_ok_iff, mapError_eq_ok_iff, Span.ofInts]
  constructor
  · rintro ⟨first, hfirst, last, hlast, h⟩
    split_ifs at h with hle
    cases h
    exact ⟨hfirst, hlast⟩
  · rintro ⟨hfirst, hlast⟩
    have hle : (0 : Int) ≤ r.start ∧ (r.start : Int) ≤ r.stop :=
      ⟨Int.natCast_nonneg _, Int.ofNat_le.2 r.start_le_stop⟩
    refine ⟨_, hfirst, _, hlast, ?_⟩
    rw [dif_pos hle]
    rfl

variable (horder : l.InOrder)

include horder

theorem exists_ends (b : Blueprint) : ∃ ends, b.Ends l ends := by
  cases b with
  | root =>
    obtain ⟨p, hp, -⟩ := Location.exists_toPosition horder (Nat.le_refl l.length)
    exact ⟨_, .root hp⟩
  | text => exact ⟨_, .text⟩
  | generated => exact ⟨_, .generated⟩
  | node => exact ⟨_, .node⟩

theorem between_whole {p : Position} (hp : l.toPosition l.length = .ok p) :
    Between l ((1, 1), (p.line, p.column)) l.whole := by
  have hzero : l.startAt 0 = 0 := horder.startAt_zero
  have hfirst : l.toOffset 1 1 = .ok 0 := by
    obtain ⟨i, hi⟩ := Location.exists_inLine horder (Nat.zero_le l.length)
    have hstart : l.startAt i ≤ 0 := hi.startAt_le
    obtain rfl : i = 0 := by
      by_contra hne
      have := horder.startAt_lt 0 i (by omega) hi.lt_lineCount
      omega
    exact (Location.toOffset_eq_ok_iff horder).2 ⟨0, hi, rfl, by simp [hzero]⟩
  have hlast : l.toOffset p.line p.column = .ok p.offset :=
    Location.toOffset_of_toPosition horder hp
  have hoffset : (p.offset : Int) = l.length := Location.offset_of_toPosition horder hp
  rw [Int.ofNat_inj.1 hoffset] at hlast
  exact ⟨hfirst, hlast⟩

theorem ownSpan_eq_ok_iff {ends : Option (LineColumn × LineColumn)} (hends : b.Ends l ends)
    {span : Option Span} : b.ownSpan l = .ok span ↔ Option.Rel (Between l) ends span := by
  have hsome : ∀ {start stop : LineColumn}, (spanBetween l start stop).map some = .ok span
      ↔ Option.Rel (Between l) (some (start, stop)) span := by
    intro start stop
    rw [except_map_eq_ok_iff]
    constructor
    · rintro ⟨r, hr, rfl⟩
      exact .some (spanBetween_eq_ok_iff.1 hr)
    · rintro (h | _)
      exact ⟨_, spanBetween_eq_ok_iff.2 h, rfl⟩
  cases hends with
  | root hp =>
    have hwhole := between_whole horder hp
    constructor
    · rintro ⟨⟩
      exact .some hwhole
    · rintro (h | _)
      rw [h.unique hwhole]
      rfl
  | text => exact hsome
  | node => exact hsome
  | generated =>
    constructor
    · rintro ⟨⟩
      exact .none
    · rintro ⟨⟩
      rfl

theorem resolves_iff : b.Resolves l ↔ ∃ span, b.ownSpan l = .ok span := by
  obtain ⟨ends, hends⟩ := exists_ends horder b
  constructor
  · intro h
    rcases ends with _ | ends
    · exact ⟨none, (ownSpan_eq_ok_iff horder hends).2 .none⟩
    · obtain ⟨r, hr⟩ := h ends hends
      exact ⟨some r, (ownSpan_eq_ok_iff horder hends).2 (.some hr)⟩
  · rintro ⟨span, hspan⟩ ends hends
    cases (ownSpan_eq_ok_iff horder hends).1 hspan with
    | some hr => exact ⟨_, hr⟩

end Spans

section Building

variable {α β : Type} {l : Location} {b : Blueprint} {k m : Nat} {t : Node} {ts : List Node}

theorem building_bind_eq_ok_iff {x : Building α} {f : α → Building β} {y : β} :
    (x >>= f) k = .ok (y, m) ↔ ∃ a n, x k = .ok (a, n) ∧ f a n = .ok (y, m) := by
  have h : (x >>= f) k = x k >>= fun p => f p.1 p.2 := rfl
  rw [h, except_bind_eq_ok_iff]
  simp

theorem building_lift_eq_ok_iff {x : Except BuildError α} {a : α} :
    (liftM x : Building α) k = .ok (a, m) ↔ x = .ok a ∧ m = k := by
  have h : (liftM x : Building α) k = x >>= fun a => .ok (a, k) := rfl
  rw [h, except_bind_eq_ok_iff]
  simp [eq_comm]

theorem buildAll_cons_eq_ok_iff {bs : List Blueprint} :
    buildAll l (b :: bs) k = .ok (ts, m)
      ↔ ∃ t n us, buildFrom l b k = .ok (t, n) ∧ buildAll l bs n = .ok (us, m) ∧ ts = t :: us := by
  rw [buildAll, building_bind_eq_ok_iff]
  simp only [building_bind_eq_ok_iff]
  constructor
  · rintro ⟨t, n, ht, us, n', hus, h⟩
    cases h
    exact ⟨t, n, us, ht, hus, rfl⟩
  · rintro ⟨t, n, us, ht, hus, rfl⟩
    exact ⟨t, n, ht, us, m, hus, rfl⟩

theorem buildAll_nil_eq_ok_iff : buildAll l [] k = .ok (ts, m) ↔ ts = [] ∧ m = k := by
  have h : buildAll l [] k = .ok ([], k) := rfl
  rw [h, Except.ok.injEq, Prod.mk.injEq, eq_comm, @eq_comm _ k]

/-- A blueprint is built after its parts, with its own span and what its outline shows. -/
theorem buildFrom_eq (b : Blueprint) :
    buildFrom l b = (do
      let nodes ← buildAll l b.children
      let span ← b.ownSpan l
      fresh ⟨b.outline.type, nodes, span, b.outline.value, b.outline.data⟩) := by
  cases b with
  | root => rfl
  | generated => rfl
  | text value start stop =>
    rw [buildFrom, ownSpan]
    rcases spanBetween l start stop <;> rfl
  | node type start stop value data children =>
    rw [buildFrom, ownSpan]
    rcases spanBetween l start stop <;> rfl

theorem buildFrom_eq_ok_iff :
    buildFrom l b k = .ok (t, m)
      ↔ ∃ ts n span, buildAll l b.children k = .ok (ts, n) ∧ b.ownSpan l = .ok span
        ∧ t = ⟨n, b.outline.type, ts, span, b.outline.value, b.outline.data⟩ ∧ m = n + 1 := by
  rw [buildFrom_eq]
  simp only [building_bind_eq_ok_iff, building_lift_eq_ok_iff]
  constructor
  · rintro ⟨ts, n, hts, span, _, ⟨hspan, rfl⟩, h⟩
    cases h
    exact ⟨ts, _, span, hts, hspan, rfl, rfl⟩
  · rintro ⟨ts, n, span, hts, hspan, rfl, rfl⟩
    exact ⟨ts, n, hts, span, n, ⟨hspan, rfl⟩, rfl⟩

theorem exists_buildAll {bs : List Blueprint}
    (h : ∀ b ∈ bs, ∀ k, ∃ t m, buildFrom l b k = .ok (t, m)) :
    ∀ k, ∃ ts m, buildAll l bs k = .ok (ts, m) := by
  induction bs with
  | nil => exact fun k => ⟨[], k, rfl⟩
  | cons b bs ih =>
    intro k
    obtain ⟨t, n, ht⟩ := h b List.mem_cons_self k
    obtain ⟨ts, m, hts⟩ := ih (fun c hc => h c (List.mem_cons_of_mem _ hc)) n
    exact ⟨t :: ts, m, buildAll_cons_eq_ok_iff.2 ⟨t, n, ts, ht, hts, rfl⟩⟩

theorem forall₂_of_buildAll {bs : List Blueprint} (h : buildAll l bs k = .ok (ts, m)) :
    List.Forall₂ (fun b t => ∃ j n, buildFrom l b j = .ok (t, n)) bs ts := by
  induction bs generalizing k ts with
  | nil =>
    obtain ⟨rfl, -⟩ := buildAll_nil_eq_ok_iff.1 h
    exact .nil
  | cons b bs ih =>
    obtain ⟨t, n, us, ht, hus, rfl⟩ := buildAll_cons_eq_ok_iff.1 h
    exact .cons ⟨k, n, ht⟩ (ih hus)

/-- What is built of a blueprint is what it describes. -/
theorem makes_of_buildFrom (horder : l.InOrder) (b : Blueprint) :
    ∀ {k m : Nat} {t : Node}, buildFrom l b k = .ok (t, m) → b.Makes l t := by
  induction b using childInduction with
  | step b ih =>
    intro k m t h
    obtain ⟨ts, n, span, hts, hspan, rfl, -⟩ := buildFrom_eq_ok_iff.1 h
    obtain ⟨ends, hends⟩ := exists_ends horder b
    refine .node hends ((ownSpan_eq_ok_iff horder hends).1 hspan) ?_
    refine ((List.forall₂_and_left _ _).2 ⟨ih, forall₂_of_buildAll hts⟩).imp ?_
    rintro c u ⟨hmakes, j, i, hu⟩
    exact hmakes hu

/-- A blueprint can be built just if all ends in it resolve. -/
theorem everywhere_resolves_iff (horder : l.InOrder) (b : Blueprint) :
    ∀ k, b.Everywhere (Resolves l) ↔ ∃ t m, buildFrom l b k = .ok (t, m) := by
  induction b using childInduction with
  | step b ih =>
    intro k
    rw [everywhere_iff, resolves_iff horder]
    constructor
    · rintro ⟨⟨span, hspan⟩, hbelow⟩
      obtain ⟨ts, n, hts⟩ := exists_buildAll
        (fun c hc j => (ih c hc j).1 (hbelow c hc)) k
      exact ⟨_, _, buildFrom_eq_ok_iff.2 ⟨ts, n, span, hts, hspan, rfl, rfl⟩⟩
    · rintro ⟨t, m, h⟩
      obtain ⟨ts, n, span, hts, hspan, -, -⟩ := buildFrom_eq_ok_iff.1 h
      have hparts : List.Forall₂ (fun c u => c.Everywhere (Resolves l)
          ∧ ∃ j i, buildFrom l c j = .ok (u, i)) b.children ts := by
        refine ((List.forall₂_and_left _ _).2 ⟨ih, forall₂_of_buildAll hts⟩).imp ?_
        rintro c u ⟨hc, j, i, hu⟩
        exact ⟨(hc j).2 ⟨u, i, hu⟩, j, i, hu⟩
      exact ⟨⟨span, hspan⟩, ((List.forall₂_and_left _ _).1 hparts).1⟩

end Building

end MarkdownLint.Blueprint
