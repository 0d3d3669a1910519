import MarkdownLint.Proofs.Entries
import MarkdownLint.Proofs.LoadedTree
import Mathlib.Data.List.Nodup
import Mathlib.Data.List.Perm.Basic

/-!
# Spelling a tree

A tree is spelled by mappings that hold the fields of its nodes and their data, in any order
(`Node.SpelledBy`); `Node.toValue` is such a spelling (`spelledBy_toValue`).  What spells a tree
passes every check that the tree itself allows (`fields_of_perm`), so it loads, to a tree that is
alike and has the same data (`load_spelling`).
-/

namespace MarkdownLint

namespace Span

/-- The two ends of a span by their offsets. -/
def spelledEnds (r : Span) : List (Value × Value) :=
  [(.text "start", .map [(.text "offset", .int r.start)]),
    (.text "end", .map [(.text "offset", .int r.stop)])]

def toValue (r : Span) : Value :=
  .map r.spelledEnds

/-- A position that spells a span, its ends in any order. -/
inductive SpelledBy (r : Span) : Value → Prop
  | ends {entries : List (Value × Value)} (perm : entries.Perm r.spelledEnds) :
    r.SpelledBy (.map entries)

theorem spelledBy_toValue (r : Span) : r.SpelledBy r.toValue :=
  .ends (.refl _)

end Span

namespace Node

/-- The fields of a node that are there, and its data, given how its span and its children are
spelled. -/
def spelledEntries (n : Node) (position : Option Value) (children : List Value) :
    List (Value × Value) :=
  (.text "type", .text n.type) :: (.text "children", .list children)
    :: ((n.value.map fun v => (.text "value", .text v)).toList
      ++ (position.map fun v => (.text "position", v)).toList
      ++ n.data.map fun e => (.text e.1, e.2))

/-- A mapping that spells a tree, its entries in any order. -/
inductive SpelledBy : Node → Value → Prop
  | entries {n : Node} {position : Option Value} {children : List Value}
      {entries : List (Value × Value)} (span : Option.Rel Span.SpelledBy n.span position)
      (below : List.Forall₂ SpelledBy n.children children)
      (perm : entries.Perm (n.spelledEntries position children)) : SpelledBy n (.map entries)

mutual

def toValue : Node → Value
  | ⟨serial, type, children, span, value, data⟩ =>
    .map (spelledEntries ⟨serial, type, children, span, value, data⟩ (span.map Span.toValue)
      (toValues children))

def toValues : List Node → List Value
  | [] => []
  | n :: ns => toValue n :: toValues ns

end

theorem spelledBy_toValues :
    ∀ ns : List Node, (∀ n ∈ ns, n.SpelledBy n.toValue) →
      List.Forall₂ SpelledBy ns (toValues ns)
  | [], _ => .nil
  | n :: ns, h => .cons (h n List.mem_cons_self)
      (spelledBy_toValues ns fun m hm => h m (List.mem_cons_of_mem _ hm))

theorem spelledBy_toValue (n : Node) : n.SpelledBy n.toValue := by
  induction n using childInduction with
  | node n ih =>
    obtain ⟨serial, type, children, span, value, data⟩ := n
    rw [toValue]
    refine .entries ?_ (spelledBy_toValues children ih) (.refl _)
    cases span with
    | none => exact .none
    | some r => exact .some r.spelledBy_toValue

/-- The keys of a node's data are different and none of them is that of a field. -/
structure DataApart (n : Node) : Prop where
  nodup : (n.data.map (·.1)).Nodup
  notMem : ∀ e ∈ n.data, e.1 ∉ Source.reservedKeys

/-- The same data at the same places, perhaps in another order. -/
def SameData (u t : Node) : Prop :=
  ∀ p n, t.follow? p = some n → ∃ m, u.follow? p = some m ∧ m.data.Perm n.data

section Entries

variable {n : Node} {position : Option Value} {children : List Value}
  {entries : List (Value × Value)}

theorem DataApart.reserved_notMem (h : n.DataApart) {k : String} (hk : k ∈ Source.reservedKeys)
    (v : Value) : (k, v) ∉ n.data :=
  fun he => h.notMem _ he hk

theorem nodup_spelledEntries (h : n.DataApart) (position : Option Value)
    (children : List Value) : ((n.spelledEntries position children).map (·.1)).Nodup := by
  have htype : ∀ v, ("type", v) ∉ n.data := h.reserved_notMem (by decide)
  have hchildren : ∀ v, ("children", v) ∉ n.data := h.reserved_notMem (by decide)
  have hvalue : ∀ v, ("value", v) ∉ n.data := h.reserved_notMem (by decide)
  have hposition : ∀ v, ("position", v) ∉ n.data := h.reserved_notMem (by decide)
  have hdata : (n.data.map fun e => Value.text e.1).Nodup := by
    have hinjective : Function.Injective Value.text := fun _ _ => Value.text.inj
    have := List.Nodup.map hinjective h.nodup
    rwa [List.map_map] at this
  rcases hv : n.value with _ | v <;> rcases position with _ | p <;>
    simp [spelledEntries, hv, htype, hchildren, hvalue, hposition, Function.comp_def, hdata]

theorem lookup_of_perm (h : n.DataApart)
    (perm : entries.Perm (n.spelledEntries position children)) :
    Value.lookup "type" entries = some (.text n.type)
      ∧ Value.lookup "children" entries = some (.list children)
      ∧ Value.lookup "value" entries = n.value.map .text
      ∧ Value.lookup "position" entries = position := by
  have hnd : (entries.map (·.1)).Nodup :=
    (perm.map _).nodup_iff.2 (nodup_spelledEntries h position children)
  have hvalue : ∀ v, ("value", v) ∉ n.data := h.reserved_notMem (by decide)
  have hposition : ∀ v, ("position", v) ∉ n.data := h.reserved_notMem (by decide)
  refine ⟨?_, ?_, ?_, ?_⟩
  · exact Value.lookup_eq_some_of_mem hnd (perm.mem_iff.2 (by simp [spelledEntries]))
  · exact Value.lookup_eq_some_of_mem hnd (perm.mem_iff.2 (by simp [spelledEntries]))
  · rcases hv : n.value with _ | v
    · refine Value.lookup_eq_none fun hmem => ?_
      rw [(perm.map _).mem_iff] at hmem
      simp [spelledEntries, hv, hvalue] at hmem
    · exact Value.lookup_eq_some_of_mem hnd (perm.mem_iff.2 (by simp [spelledEntries, hv]))
  · rcases position with _ | p
    · refine Value.lookup_eq_none fun hmem => ?_
      rw [(perm.map _).mem_iff] at hmem
      simp [spelledEntries, hposition] at hmem
    · exact Value.lookup_eq_some_of_mem hnd (perm.mem_iff.2 (by simp [spelledEntries]))

theorem filterMap_spelledEntries (h : n.DataApart) (position : Option Value)
    (children : List Value) :
    (n.spelledEntries position children).filterMap Source.dataItem? = n.data := by
  have hvalue : ((n.value.map fun v => (Value.text "value", Value.text v)).toList).filterMap
      Source.dataItem? = [] := by
    cases n.value with
    | none => rfl
    | some v => exact List.filterMap_cons_none (Source.dataItem?_of_mem (by decide) _)
  have hposition : ((position.map fun v => (Value.text "position", v)).toList).filterMap
      Source.dataItem? = [] := by
    cases position with
    | none => rfl
    | some v => exact List.filterMap_cons_none (Source.dataItem?_of_mem (by decide) _)
  have hdata : n.data.filterMap (fun e => Source.dataItem? (.text e.1, e.2))
      = n.data.filterMap some :=
    List.filterMap_congr fun e he => Source.dataItem?_of_notMem (h.notMem e he) e.2
  rw [spelledEntries, List.filterMap_cons_none (Source.dataItem?_of_mem (by decide) _),
    List.filterMap_cons_none (Source.dataItem?_of_mem (by decide) _), List.filterMap_append,
    List.filterMap_append, hvalue, hposition, List.filterMap_map]
  exact hdata.trans List.filterMap_some

theorem exists_text_of_mem_spelledEntries {e : Value × Value}
    (he : e ∈ n.spelledEntries position children) : ∃ k, e.1 = .text k := by
  simp only [spelledEntries, List.mem_cons, List.mem_append, Option.mem_toList,
    Option.map_eq_some_iff, List.mem_map] at he
  rcases he with rfl | rfl | (⟨v, -, rfl⟩ | ⟨p, -, rfl⟩) | ⟨d, -, rfl⟩ <;> exact ⟨_, rfl⟩

/-- What is left of the entries besides the fields is the data of the node. -/
theorem dataOf_of_perm (h : n.DataApart)
    (perm : entries.Perm (n.spelledEntries position children)) :
    ∃ data, Source.dataOf entries = some data ∧ data.Perm n.data := by
  have hperm := perm.filterMap Source.dataItem?
  rw [filterMap_spelledEntries h] at hperm
  refine ⟨_, Source.dataOf_eq (fun e he => ?_) rfl ((hperm.map _).nodup_iff.2 h.nodup), hperm⟩
  exact exists_text_of_mem_spelledEntries (perm.mem_iff.1 he)

end Entries

end Node

namespace Source

variable {s : Source}

theorem lookup_of_lookup {key : String} {entries : List (Value × Value)} {v : Option Value}
    (h : Value.lookup key entries = v) : s.lookup key entries = s.resolve (v.getD .null) := by
  rw [lookup, given, h]

theorem offset_of_offset {k : Nat} (hk : ∀ l, s.location = some l → k ≤ l.length) :
    s.offset (.map [(.text "offset", .int k)]) = .ok k := by
  have hentries : s.entries? (.map [(.text "offset", .int k)]) = some [(.text "offset", .int k)] :=
    rfl
  have hlookup : s.lookup "offset" [(.text "offset", .int k)] = .int k := rfl
  have hpast : ¬ (s.location.any fun l => (l.length : Int) < k) = true := by
    rw [Option.any_eq_true]
    rintro ⟨l, hl, hlt⟩
    have := hk l hl
    simp only [decide_eq_true_eq] at hlt
    omega
  rw [offset, hentries]
  simp only [hlookup]
  rw [if_neg (by omega), if_neg hpast]
  rfl

/-- A spelled span is read back, unless it ends past the text. -/
theorem span_of_spelledBy {r : Span} {position : Value} (h : r.SpelledBy position)
    (hr : ∀ l, s.location = some l → r.stop ≤ l.length) : s.span position = .ok r := by
  obtain ⟨perm⟩ := h
  rename_i entries
  have hnd : (entries.map (·.1)).Nodup := (perm.map _).nodup_iff.2 (by simp [Span.spelledEnds])
  have hstart : Value.lookup "start" entries = some (.map [(.text "offset", .int r.start)]) :=
    Value.lookup_eq_some_of_mem hnd (perm.mem_iff.2 (by simp [Span.spelledEnds]))
  have hstop : Value.lookup "end" entries = some (.map [(.text "offset", .int r.stop)]) :=
    Value.lookup_eq_some_of_mem hnd (perm.mem_iff.2 (by simp [Span.spelledEnds]))
  refine span_eq_ok_iff.2 ⟨entries, rfl, ?_, ?_⟩
  · rw [lookup_of_lookup hstart]
    exact offset_of_offset fun l hl => Nat.le_trans r.start_le_stop (hr l hl)
  · rw [lookup_of_lookup hstop]
    exact offset_of_offset hr

/-- The checks of the entries that a node is spelled with come to what the node is, but for its
span, which is that of the position. -/
theorem fields_of_spelledEntries (bound : Option Span) {n : Node} {position : Option Value}
    {children : List Value} {entries : List (Value × Value)} (htype : n.type ≠ "")
    (hdata : n.DataApart) (perm : entries.Perm (n.spelledEntries position children)) :
    s.lookup "position" entries = s.resolve (position.getD .null)
      ∧ ∃ data, data.Perm n.data ∧ s.fields bound (.map entries)
        = (s.boundedSpan bound entries).map fun span =>
          ⟨n.type, span, n.value, children, some data⟩ := by
  obtain ⟨htypeAt, hchildrenAt, hvalueAt, hpositionAt⟩ := Node.lookup_of_perm hdata perm
  obtain ⟨data, hdataOf, hperm⟩ := Node.dataOf_of_perm hdata perm
  refine ⟨lookup_of_lookup hpositionAt, data, hperm, ?_⟩
  have hentries : s.entries? (.map entries) = some entries := rfl
  have htext : s.lookup "type" entries = .text n.type := lookup_of_lookup htypeAt
  have hvalue : s.valueOf entries = .ok n.value := by
    rw [valueOf, lookup_of_lookup hvalueAt]
    cases n.value <;> rfl
  have hchildren : s.childrenOf entries = .ok children := by
    rw [childrenOf, lookup_of_lookup hchildrenAt]
    rfl
  rw [fields, hentries]
  simp only [htext, if_neg htype, hvalue, hchildren, hdataOf]
  cases s.boundedSpan bound entries <;> rfl

/-- The checks of an entry that spells a node come to what the node is, if the node passes them
itself. -/
theorem fields_of_perm {bound : Option Span} {n : Node} {position : Option Value}
    {children : List Value} {entries : List (Value × Value)} (hn : s.Passes bound n)
    (hdata : n.DataApart) (hspan : Option.Rel Span.SpelledBy n.span position)
    (perm : entries.Perm (n.spelledEntries position children)) :
    ∃ data, s.fields bound (.map entries) = .ok ⟨n.type, n.span, n.value, children, some data⟩
      ∧ data.Perm n.data := by
  obtain ⟨hposition, data, hperm, hfields⟩ :=
    fields_of_spelledEntries (s := s) bound hn.type_ne hdata perm
  have hbounded : s.boundedSpan bound entries = .ok n.span := by
    rw [boundedSpan_eq_ok_iff, hposition]
    generalize hspan' : n.span = span at hspan
    cases hspan with
    | none => exact .inl ⟨rfl, rfl⟩
    | some hr =>
      rename_i r p
      have hresolve : s.resolve p = p := by
        obtain ⟨-⟩ := hr
        rfl
      rw [Option.getD_some, hresolve]
      refine .inr ⟨r, ?_, span_of_spelledBy hr (hn.stop_le r hspan'), hn.within r hspan', rfl⟩
      obtain ⟨-⟩ := hr
      exact Value.noConfusion
  refine ⟨data, ?_, hperm⟩
  rw [hfields, hbounded]
  rfl

theorem eachFrom_of_forall₂ {f : Nat → Value → Loading Node} {same : Node → Node → Prop}
    {ns : List Node} {vs : List Value} (h : List.Forall₂ Node.SpelledBy ns vs)
    {limit : Int} {i k : Nat}
    (hf : ∀ n ∈ ns, ∀ v, n.SpelledBy v → ∀ i k : Nat, (k : Int) + n.size ≤ limit →
      ∃ u, (f i v).outcome k = (.ok u, k + n.size) ∧ same u n)
    (hroom : (k : Int) + Node.sizes ns ≤ limit) :
    ∃ us, (eachFrom f i vs).outcome k = (.ok us, k + Node.sizes ns) ∧ List.Forall₂ same us ns := by
  induction h generalizing i k with
  | nil => exact ⟨[], rfl, .nil⟩
  | @cons n v ns vs hv _ ih =>
    rw [Node.sizes] at hroom
    obtain ⟨u, hu, hsame⟩ := hf n List.mem_cons_self v hv i k (by push_cast at hroom; omega)
    obtain ⟨us, hus, hsames⟩ := ih (i := i + 1) (k := k + n.size)
      (fun m hm => hf m (List.mem_cons_of_mem _ hm)) (by push_cast at hroom ⊢; omega)
    refine ⟨u :: us, ?_, .cons hsame hsames⟩
    rw [Node.sizes, ← Nat.add_assoc]
    exact eachFrom_cons_eq_ok_iff.2 ⟨u, _, us, hu, hus, rfl⟩

end Source

namespace Node

/-- Two trees that are alike, with the same data at the same places. -/
def Twin (u t : Node) : Prop :=
  u.alike t ∧ u.SameData t

theorem allAlike_of_forall₂ :
    ∀ {us ts : List Node}, List.Forall₂ Twin us ts → allAlike us ts
  | _, _, .nil => rfl
  | u :: us, t :: ts, .cons h hs => by
    rw [allAlike, h.1, allAlike_of_forall₂ hs]
    rfl

theorem exists_of_forall₂ {same : Node → Node → Prop} {t : Node} :
    ∀ {us ts : List Node} {i : Nat}, List.Forall₂ same us ts → ts[i]? = some t →
      ∃ u, us[i]? = some u ∧ same u t
  | _, _, i, .nil, h => by cases h
  | u :: us, t' :: ts, 0, .cons hu _, h => by
    cases h
    exact ⟨u, rfl, hu⟩
  | u :: us, t' :: ts, i + 1, .cons _ hus, h => exists_of_forall₂ (i := i) hus h

/-- Nodes that agree in their fields and their data, with twins as children, are twins. -/
theorem twin_of_forall₂ {us ts : List Node} (h : List.Forall₂ Twin us ts)
    {data data' : List (String × Value)} (hdata : data.Perm data') (serial serial' : Nat)
    (type : String) (span : Option Span) (value : Option String) :
    Twin ⟨serial, type, us, span, value, data⟩ ⟨serial', type, ts, span, value, data'⟩ := by
  refine ⟨by simp [alike, allAlike_of_forall₂ h], fun p n hp => ?_⟩
  cases p with
  | nil =>
    cases hp
    exact ⟨_, rfl, hdata⟩
  | cons i p =>
    obtain ⟨c, hc, hp⟩ := follow?_cons_eq_some_iff.1 hp
    obtain ⟨d, hd, htwin⟩ := exists_of_forall₂ h hc
    obtain ⟨m, hm, hperm⟩ := htwin.2 p n hp
    exact ⟨m, follow?_cons_eq_some_iff.2 ⟨d, hd, hm⟩, hperm⟩

end Node

namespace Source

variable {s : Source}

/-- By induction on the tree: what spells a tree that the checks allow loads, from any count that
leaves room for it, to a twin of the tree. -/
theorem build_of_spelledBy (t : Node) :
    ∀ {levels : Nat} {way : List Nat} {bound : Option Span} {v : Value} {k : Nat},
      t.SpelledBy v → (k : Int) + t.size ≤ s.limits.nodeCount →
      (∀ p n, t.follow? p = some n →
        p.length < levels ∧ s.Passes (t.spanAbove bound p) n ∧ n.DataApart) →
      ∃ u, (s.build levels way bound v).outcome k = (.ok u, k + t.size) ∧ u.Twin t := by
  induction t using Node.childInduction with
  | node t ih =>
    intro levels way bound v k hv hroom hplaces
    obtain ⟨⟨hlevels, hpasses, hdata⟩, hbelow⟩ := (Node.forall_places_iff
      (P := fun p b n => p.length < levels ∧ s.Passes b n ∧ n.DataApart)).1 hplaces
    obtain ⟨levels, rfl⟩ : ∃ l, levels = l + 1 := ⟨levels - 1, by omega⟩
    obtain ⟨hspan, hchildren, perm⟩ := hv
    rename_i position children entries
    obtain ⟨data, hfields, hperm⟩ := fields_of_perm hpasses hdata hspan perm
    rw [Node.size_eq] at hroom ⊢
    obtain ⟨us, hus, hsames⟩ := eachFrom_of_forall₂ (i := 0) (k := k + 1)
      (f := fun i child => s.build levels (i :: way) (t.span.or bound) child) hchildren
      (fun c hc v hv i k hk => ih c hc hv hk fun p n hp => by
        obtain ⟨j, hj⟩ := List.mem_iff_getElem?.1 hc
        have hplace := hbelow j c hj p n hp
        exact ⟨by have := hplace.1; rw [List.length_cons] at this; omega, hplace.2⟩)
      (by push_cast at hroom ⊢; omega)
    refine ⟨⟨k, t.type, us, t.span, t.value, data⟩, ?_, ?_⟩
    · refine s.build_eq_ok_iff.2 ⟨_, data, us, by omega, hfields, rfl, ?_, rfl⟩
      rw [← Nat.add_assoc]
      exact hus
    · obtain ⟨serial, type, children, span, value, data'⟩ := t
      exact Node.twin_of_forall₂ hsames hperm k serial type span value

end Source

/-- A tree that loading can give: every type is there, every span lies in that of the nearest node
above that has one and ends within the text if that is known, no node has data under the key of a
field, and there are no more nodes and no more levels than the limits allow. -/
structure Node.Loadable (limits : Limits) (text : Option String) (t : Node) : Prop where
  type_ne : ∀ p n, t.follow? p = some n → n.type ≠ ""
  inBounds : t.InBounds none
  stop_le : ∀ p n r, t.follow? p = some n → n.span = some r → ∀ x, text = some x →
    r.stop ≤ x.length
  dataApart : ∀ p n, t.follow? p = some n → n.DataApart
  length_walk_le : t.walk.length ≤ limits.nodeCount
  depth_le : ∀ p n, t.follow? p = some n → p.length ≤ limits.treeDepth

/-- Loading what spells a tree gives that tree again, as far as equality of trees and their data
go. -/
theorem Source.load_spelling {limits : Limits} {text : Option String} {t : Node}
    (ht : t.Loadable limits text) (collections : Array Value) {v : Value} (hv : t.SpelledBy v) :
    ∃ u, load { limits, collections, location := text.map .ofText } v = .ok u ∧ u.alike t
      ∧ u.SameData t := by
  have hroom : ((0 : Nat) : Int) + t.size ≤ limits.nodeCount := by
    have := ht.length_walk_le
    rw [Node.length_walk] at this
    omega
  have hplaces : ∀ p n, t.follow? p = some n → p.length < (limits.treeDepth + 1).toNat
      ∧ Passes { limits, collections, location := text.map .ofText } (t.spanAbove none p) n
      ∧ n.DataApart := fun p n hp => by
    refine ⟨?_, ⟨ht.type_ne p n hp, ht.inBounds p n hp, fun r hr l hl => ?_⟩,
      ht.dataApart p n hp⟩
    · have := ht.depth_le p n hp
      omega
    · obtain ⟨x, hx, rfl⟩ := Option.map_eq_some_iff.1 hl
      rw [Location.ofText_length]
      exact ht.stop_le p n r hp hr x hx
  obtain ⟨u, hu, halike, hdata⟩ := build_of_spelledBy t hv hroom hplaces
  exact ⟨u, (load_eq_ok_iff _).2 ⟨_, hu⟩, halike, hdata⟩

/-- A text with data, in a list without a span, in a root with one. -/
theorem Source.load_spelling_nested :
    ∃ t : Node, t = ⟨0, "root", [⟨0, "list", [⟨0, "text", [], some ⟨3, 5, by decide⟩, some "cd",
        [("lang", .text "en"), ("depth", .int 2)]⟩], none, none, []⟩], some ⟨0, 5, by decide⟩, none,
        [("tags", .list [])]⟩
      ∧ t.Loadable { nodeCount := 3, treeDepth := 2 } (some "ab\ncd")
      ∧ t.SpelledBy t.toValue
      ∧ ∃ u, load { limits := { nodeCount := 3, treeDepth := 2 },
                    location := (some "ab\ncd").map .ofText } t.toValue = .ok u
        ∧ u.alike t ∧ u.SameData t := by
  refine ⟨_, rfl, ?_⟩
  generalize ht : (⟨0, "root", _, _, _, _⟩ : Node) = t
  have hplaces : ∀ p n, t.follow? p = some n → n.type ≠ ""
      ∧ (∀ r, n.span = some r → ∀ b, t.spanAbove none p = some b → b.contains r)
      ∧ (∀ r, n.span = some r → r.stop ≤ 5) ∧ n.DataApart ∧ p.length ≤ (2 : Int) := by
    subst ht
    rintro (_ | ⟨_ | i, _ | ⟨_ | j, _ | ⟨k, p⟩⟩⟩) n hp
    all_goals
      simp only [Node.follow?, List.getElem?_cons_zero, List.getElem?_cons_succ,
        List.getElem?_nil, Option.some.injEq, reduceCtorEq] at hp
    all_goals
      subst hp
      refine ⟨by decide, ?_, ?_, ⟨by decide, by decide⟩, by decide⟩
    all_goals simp [Node.spanAbove, Span.contains]
  have hcount : t.walk.length ≤ (3 : Int) := by
    rw [Node.length_walk, ← ht]
    decide
  have hloadable : t.Loadable { nodeCount := 3, treeDepth := 2 } (some "ab\ncd") :=
    { type_ne := fun p n hp => (hplaces p n hp).1
      inBounds := fun p n hp => (hplaces p n hp).2.1
      stop_le := fun p n r hp hr x hx => Option.some.inj hx ▸ (hplaces p n hp).2.2.1 r hr
      dataApart := fun p n hp => (hplaces p n hp).2.2.2.1
      length_walk_le := hcount
      depth_le := fun p n hp => (hplaces p n hp).2.2.2.2 }
  exact ⟨hloadable, t.spelledBy_toValue, load_spelling hloadable #[] t.spelledBy_toValue⟩

end MarkdownLint
