import MarkdownLint.Proofs.Places

/-!
# Spans within spans

The bound of a place is the span of the nearest node above it that has one.  If each span lies in
the bound of its place, then each lies in those of all the nodes above it, however many generated
ones are in between (`contains_of_inBounds`).
-/

namespace MarkdownLint

theorem Span.contains_iff {s r : Span} : s.contains r ↔ s.start ≤ r.start ∧ r.stop ≤ s.stop := by
  simp [contains]

theorem Span.contains_refl (s : Span) : s.contains s :=
  contains_iff.2 ⟨Nat.le_refl _, Nat.le_refl _⟩

theorem Span.contains_trans {s r q : Span} (h : s.contains r) (h' : r.contains q) :
    s.contains q := by
  rw [contains_iff] at *
  omega

namespace Node

/-- The span of the nearest node above a place that has one, with `above` standing over the
root. -/
def spanAbove (above : Option Span) : Node → List Nat → Option Span
  | _, [] => above
  | n, i :: is =>
    match n.children[i]? with
    | some c => c.spanAbove (n.span.or above) is
    | none => none

theorem spanAbove_cons {n c : Node} {above : Option Span} {i : Nat} {is : List Nat}
    (hc : n.children[i]? = some c) :
    n.spanAbove above (i :: is) = c.spanAbove (n.span.or above) is := by
  rw [spanAbove, hc]

/-- What holds at every place holds at the root and, one level down, at every place of the
children. -/
theorem forall_places_iff {P : List Nat → Option Span → Node → Prop} {t : Node}
    {above : Option Span} :
    (∀ p n, t.follow? p = some n → P p (t.spanAbove above p) n)
      ↔ P [] above t ∧ ∀ (i : Nat) c, t.children[i]? = some c →
        ∀ p n, c.follow? p = some n → P (i :: p) (c.spanAbove (t.span.or above) p) n := by
  constructor
  · intro h
    refine ⟨h [] t rfl, fun i c hc p n hp => ?_⟩
    rw [← spanAbove_cons hc]
    exact h (i :: p) n (follow?_cons_eq_some_iff.2 ⟨c, hc, hp⟩)
  · rintro ⟨hroot, hbelow⟩ p n hp
    cases p with
    | nil =>
      cases hp
      exact hroot
    | cons i p =>
      obtain ⟨c, hc, hp⟩ := follow?_cons_eq_some_iff.1 hp
      rw [spanAbove_cons hc]
      exact hbelow i c hc p n hp

/-- Each span of a tree lies in the bound of its place, with `above` standing over the root. -/
def InBounds (above : Option Span) (t : Node) : Prop :=
  ∀ p n, t.follow? p = some n →
    ∀ r, n.span = some r → ∀ b, t.spanAbove above p = some b → b.contains r

theorem inBounds_iff {above : Option Span} {t : Node} :
    t.InBounds above
      ↔ (∀ r, t.span = some r → ∀ b, above = some b → b.contains r)
        ∧ ∀ (i : Nat) c, t.children[i]? = some c → c.InBounds (t.span.or above) :=
  forall_places_iff (P := fun _ b n => ∀ r, n.span = some r → ∀ b', b = some b' → b'.contains r)

/-- No span of a tree ends past a length. -/
def EndsBy (length : Nat) (t : Node) : Prop :=
  ∀ p n s, t.follow? p = some n → n.span = some s → s.stop ≤ length

theorem endsBy_mk_iff {length serial : Nat} {type : String} {children : List Node}
    {span : Option Span} {value : Option String} {data : List (String × Value)} :
    EndsBy length ⟨serial, type, children, span, value, data⟩
      ↔ (∀ s, span = some s → s.stop ≤ length) ∧ ∀ c ∈ children, c.EndsBy length := by
  constructor
  · intro h
    refine ⟨fun s hs => h [] _ s rfl hs, fun c hc p n s hp hs => ?_⟩
    obtain ⟨i, hi⟩ := List.mem_iff_getElem?.1 hc
    exact h (i :: p) n s (follow?_cons_eq_some_iff.2 ⟨c, hi, hp⟩) hs
  · rintro ⟨hroot, hbelow⟩ (_ | ⟨i, p⟩) n s hp hs
    · cases hp
      exact hroot s hs
    · obtain ⟨c, hc, hp⟩ := follow?_cons_eq_some_iff.1 hp
      exact hbelow c (List.mem_of_getElem? hc) p n s hp hs

theorem contains_of_above {b : Span} :
    ∀ (p : List Nat) {t n : Node} {r : Span}, t.InBounds (some b) → t.follow? p = some n →
      n.span = some r → b.contains r
  | [], t, n, r, h, hp, hr => by
    cases hp
    exact (inBounds_iff.1 h).1 r hr b rfl
  | i :: p, t, n, r, h, hp, hr => by
    obtain ⟨hroot, hbelow⟩ := inBounds_iff.1 h
    obtain ⟨c, hc, hp⟩ := follow?_cons_eq_some_iff.1 hp
    have hin := hbelow i c hc
    rcases ht : t.span with _ | a
    · rw [ht, Option.none_or] at hin
      exact contains_of_above p hin hp hr
    · rw [ht, Option.some_or] at hin
      exact Span.contains_trans (hroot a ht b rfl) (contains_of_above p hin hp hr)

/-- Where each span lies in the bound of its place, a node with a span has the spans of all the
nodes below it within its own. -/
theorem contains_of_inBounds {s r : Span} :
    ∀ (p q : List Nat) {above : Option Span} {t n m : Node}, t.InBounds above →
      t.follow? p = some n → n.follow? q = some m → n.span = some s → m.span = some r →
      s.contains r
  | [], [], _, t, n, m, _, hp, hq, hs, hr => by
    cases hp
    cases hq
    rw [hs, Option.some.injEq] at hr
    exact hr ▸ s.contains_refl
  | [], i :: q, _, t, n, m, h, hp, hq, hs, hr => by
    cases hp
    obtain ⟨c, hc, hq⟩ := follow?_cons_eq_some_iff.1 hq
    have hin := (inBounds_iff.1 h).2 i c hc
    rw [hs, Option.some_or] at hin
    exact contains_of_above q hin hq hr
  | i :: p, q, _, t, n, m, h, hp, hq, hs, hr => by
    obtain ⟨c, hc, hp⟩ := follow?_cons_eq_some_iff.1 hp
    exact contains_of_inBounds p q ((inBounds_iff.1 h).2 i c hc) hp hq hs hr

end Node

end MarkdownLint
