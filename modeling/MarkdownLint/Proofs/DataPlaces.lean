import MarkdownLint.Proofs.Loading
import MarkdownLint.Proofs.Places
import Mathlib.Data.List.Nodup
import Mathlib.Data.List.Perm.Subperm

/-!
# Places of the data

The entries of a serialized tree are found along paths of child indexes, like the places of the
tree that they describe, and above each there is a nearest entry with a span.  References may share
entries and lead back to where they came from.  What is above a place of the data consists of parts
of finitely many collections, so a path that is long enough comes to some entry twice: data without
a cycle is of bounded depth (`length_lt_of_not_cyclic`), and along a cycle there is no end
(`entryAt_turns`).
-/

namespace MarkdownLint

/-- A property that goes over from a value to the values of its entries and to its items. -/
structure Value.Hereditary (P : Value → Prop) : Prop where
  null : P .null
  entry : ∀ {v : Value} {es : List (Value × Value)} {e : Value × Value},
    v.entries? = some es → P v → e ∈ es → P e.2
  item : ∀ {items : List Value} {c : Value}, P (.list items) → c ∈ items → P c

namespace Source

variable (s : Source)

/-- The entries right below an entry, none if it has no list of them. -/
def items (entry : Value) : List Value :=
  match s.entries? entry with
  | some entries =>
    match s.lookup "children" entries with
    | .list items => items
    | _ => []
  | none => []

/-- The span of an entry, if it has a position that describes one. -/
def spanOf (entry : Value) : Option Span :=
  (s.entries? entry).bind fun entries => (s.span (s.lookup "position" entries)).toOption

/-- The entry at the end of a path of indexes among the children. -/
def entryAt : Value → List Nat → Option Value
  | v, [] => some v
  | v, i :: is =>
    match (s.items v)[i]? with
    | some c => entryAt c is
    | none => none

/-- The span of the nearest entry above a place that has one, with `above` standing over the
root. -/
def boundAt (above : Option Span) : Value → List Nat → Option Span
  | _, [] => above
  | v, i :: is =>
    match (s.items v)[i]? with
    | some c => boundAt ((s.spanOf v).or above) c is
    | none => none

/-- Some entry that can be reached from the root is below itself. -/
def Cyclic (root : Value) : Prop :=
  ∃ p q v, q ≠ [] ∧ s.entryAt root p = some v ∧ s.entryAt v q = some v

variable {s}

/-- A mapping that is among its own children. -/
example : Cyclic { collections := #[.map [(.text "children", .list [.ref 0])]] } (.ref 0) :=
  ⟨[], [0], .ref 0, by decide, rfl, rfl⟩

section Paths

theorem entryAt_cons_eq_some_iff {v w : Value} {i : Nat} {is : List Nat} :
    s.entryAt v (i :: is) = some w ↔ ∃ c, (s.items v)[i]? = some c ∧ s.entryAt c is = some w := by
  rw [entryAt]
  cases (s.items v)[i]? with
  | none => simp
  | some c => simp

theorem entryAt_append (v : Value) (p q : List Nat) :
    s.entryAt v (p ++ q) = (s.entryAt v p).bind (s.entryAt · q) := by
  induction p generalizing v with
  | nil => rfl
  | cons i is ih =>
    rw [List.cons_append, entryAt, entryAt]
    cases (s.items v)[i]? with
    | none => rfl
    | some c => exact ih c

theorem entryAt_turns {v : Value} {q : List Nat} (h : s.entryAt v q = some v) :
    ∀ k, s.entryAt v (List.replicate k q).flatten = some v
  | 0 => rfl
  | k + 1 => by
    rw [List.replicate_succ, List.flatten_cons, entryAt_append, h, Option.bind_some]
    exact entryAt_turns h k

end Paths

section Fields

variable {bound : Option Span} {entry : Value} {f : Fields}

theorem items_of_fields (h : s.fields bound entry = .ok f) : s.items entry = f.children := by
  obtain ⟨entries, hentries, -, -, -, -, hchildren, -⟩ := fields_eq_ok_iff.1 h
  rw [items, hentries]
  dsimp only
  rw [childrenOf] at hchildren
  generalize s.lookup "children" entries = v at *
  cases v with
  | null | list =>
    simp only [Except.ok.injEq] at hchildren
    exact hchildren
  | _ => cases hchildren

theorem spanOf_of_fields (h : s.fields bound entry = .ok f) : s.spanOf entry = f.span := by
  obtain ⟨entries, hentries, -, -, hspan, -, -, -⟩ := fields_eq_ok_iff.1 h
  rw [spanOf, hentries, Option.bind_some]
  rcases boundedSpan_eq_ok_iff.1 hspan with ⟨hnull, hnone⟩ | ⟨r, -, hr, -, hsome⟩
  · rw [hnull, hnone]
    rfl
  · rw [hr, hsome]
    rfl

end Fields

section Inheritance

variable {P : Value → Prop} (hP : Value.Hereditary P)

include hP

theorem given_of_hereditary {v : Value} {es : List (Value × Value)} (hv : P v)
    (hes : v.entries? = some es) (key : String) : P (given key es) := by
  rw [given]
  cases hvalue : Value.lookup key es with
  | none => exact hP.null
  | some value =>
    obtain ⟨e, hfind, rfl⟩ := Option.map_eq_some_iff.1 hvalue
    exact hP.entry hes hv (List.mem_of_find?_eq_some hfind)

variable (hs : ∀ v ∈ s.collections, P v)

include hs

theorem resolve_of_hereditary {v : Value} (hv : P v) : P (s.resolve v) := by
  unfold resolve
  split
  · rename_i n
    rcases Nat.lt_or_ge n s.collections.size with hn | hn
    · rw [Array.getD_eq_getD_getElem?, Array.getElem?_eq_getElem hn]
      exact hs _ (Array.getElem_mem hn)
    · rw [Array.getD_eq_getD_getElem?, Array.getElem?_eq_none hn]
      exact hP.null
  · exact hv

theorem lookup_of_hereditary {v : Value} {es : List (Value × Value)} (hv : P v)
    (hes : v.entries? = some es) (key : String) : P (s.lookup key es) :=
  resolve_of_hereditary hP hs (given_of_hereditary hP hv hes key)

theorem items_of_hereditary {v c : Value} (hv : P v) (hc : c ∈ s.items v) : P c := by
  unfold items at hc
  split at hc
  · rename_i es hes
    have hchildren := lookup_of_hereditary hP hs (resolve_of_hereditary hP hs hv) hes "children"
    split at hc
    · rename_i children heq
      rw [heq] at hchildren
      exact hP.item hchildren hc
    · cases hc
  · cases hc

theorem entryAt_of_hereditary :
    ∀ {p : List Nat} {v w : Value}, P v → s.entryAt v p = some w → P w
  | [], v, w, hv, h => by
    cases h
    exact hv
  | i :: p, v, w, hv, h => by
    obtain ⟨c, hc, h⟩ := entryAt_cons_eq_some_iff.1 h
    exact entryAt_of_hereditary (items_of_hereditary hP hs hv (List.mem_of_getElem? hc)) h

end Inheritance

end Source

namespace Value

mutual

/-- A value and all that its entries and items consist of. -/
def parts : Value → List Value
  | list items => list items :: partsOfItems items
  | map entries => map entries :: partsOfEntries entries
  | orderedMap entries => orderedMap entries :: partsOfEntries entries
  | v => [v]

def partsOfItems : List Value → List Value
  | [] => []
  | v :: vs => parts v ++ partsOfItems vs

def partsOfEntries : List (Value × Value) → List Value
  | [] => []
  | (_, v) :: es => parts v ++ partsOfEntries es

end

theorem self_mem_parts (v : Value) : v ∈ v.parts := by
  cases v <;> simp [parts]

theorem parts_subset_partsOfItems {c : Value} :
    ∀ {items : List Value}, c ∈ items → c.parts ⊆ partsOfItems items
  | v :: vs, h => by
    rw [partsOfItems]
    rcases List.mem_cons.1 h with rfl | h
    · exact List.subset_append_left _ _
    · exact List.Subset.trans (parts_subset_partsOfItems h) (List.subset_append_right _ _)

theorem parts_subset_partsOfEntries {e : Value × Value} :
    ∀ {es : List (Value × Value)}, e ∈ es → e.2.parts ⊆ partsOfEntries es
  | (k, v) :: es, h => by
    rw [partsOfEntries]
    rcases List.mem_cons.1 h with rfl | h
    · exact List.subset_append_left _ _
    · exact List.Subset.trans (parts_subset_partsOfEntries h) (List.subset_append_right _ _)

theorem hereditary_parts_subset {all : List Value} (hnull : null ∈ all) :
    Hereditary fun v => v.parts ⊆ all where
  null := by simpa [parts] using hnull
  entry {v es e} hes hv he := by
    have hparts : partsOfEntries es ⊆ v.parts := by
      cases v with
      | map | orderedMap =>
        cases hes
        exact List.subset_cons_self _ _
      | _ => cases hes
    exact List.Subset.trans (parts_subset_partsOfEntries he) (List.Subset.trans hparts hv)
  item {items c} hlist hc := by
    have hparts : partsOfItems items ⊆ (list items).parts := List.subset_cons_self _ _
    exact List.Subset.trans (parts_subset_partsOfItems hc) (List.Subset.trans hparts hlist)

end Value

namespace Source

/-- What the entries of some data can be. -/
def allParts (s : Source) (root : Value) : List Value :=
  .null :: (root.parts ++ s.collections.toList.flatMap Value.parts)

variable {s : Source}

theorem mem_allParts {root v : Value} {p : List Nat} (h : s.entryAt root p = some v) :
    v ∈ s.allParts root := by
  have hcollections : ∀ w ∈ s.collections, w.parts ⊆ s.allParts root := fun w hw u hu =>
    List.mem_cons_of_mem _ (List.mem_append_right _
      (List.mem_flatMap.2 ⟨w, Array.mem_toList_iff.2 hw, hu⟩))
  have hroot : root.parts ⊆ s.allParts root := fun u hu =>
    List.mem_cons_of_mem _ (List.mem_append_left _ hu)
  exact entryAt_of_hereditary (Value.hereditary_parts_subset List.mem_cons_self) hcollections hroot
    h v.self_mem_parts

/-- Two places on the way to a third one hold different entries, unless there is a cycle. -/
theorem eq_of_entryAt_take {root v : Value} {p : List Nat} (h : ¬ s.Cyclic root)
    (hp : s.entryAt root p = some v) {i j : Nat} (hij : i ≤ j) (hj : j ≤ p.length)
    (heq : s.entryAt root (p.take i) = s.entryAt root (p.take j)) : i = j := by
  by_contra hne
  have hsplit : p = p.take j ++ p.drop j := (List.take_append_drop j p).symm
  obtain ⟨w, hw, -⟩ : ∃ w, s.entryAt root (p.take j) = some w
      ∧ s.entryAt w (p.drop j) = some v := by
    rwa [hsplit, entryAt_append, Option.bind_eq_some_iff] at hp
  have hturn : p.take j = p.take i ++ (p.drop i).take (j - i) := by
    rw [← List.take_add, Nat.add_sub_cancel' hij]
  have hback : s.entryAt w ((p.drop i).take (j - i)) = some w := by
    have hj := hw
    rwa [hturn, entryAt_append, heq, hw, Option.bind_some] at hj
  refine h ⟨p.take i, _, w, fun hnil => ?_, heq.trans hw, hback⟩
  have hlength := congrArg List.length hnil
  rw [List.length_take, List.length_drop, List.length_nil] at hlength
  omega

theorem length_lt_of_not_cyclic {root v : Value} {p : List Nat} (h : ¬ s.Cyclic root)
    (hp : s.entryAt root p = some v) : p.length < (s.allParts root).length := by
  -- The entries on the way are all different, and there are only so many to choose from.
  let entries := (List.range (p.length + 1)).map fun k => s.entryAt root (p.take k)
  have hnodup : entries.Nodup := by
    refine List.Nodup.map_on (fun i hi j hj heq => ?_) List.nodup_range
    rw [List.mem_range] at hi hj
    rcases Nat.le_total i j with hij | hij
    · exact eq_of_entryAt_take h hp hij (by omega) heq
    · exact (eq_of_entryAt_take h hp hij (by omega) heq.symm).symm
  have hsubset : entries ⊆ (s.allParts root).map some := by
    intro o ho
    obtain ⟨k, -, rfl⟩ := List.mem_map.1 ho
    rw [← List.take_append_drop k p, entryAt_append, Option.bind_eq_some_iff] at hp
    obtain ⟨w, hw, -⟩ := hp
    exact List.mem_map.2 ⟨w, mem_allParts hw, hw.symm⟩
  have hlength := (hnodup.subperm hsubset).length_le
  rw [List.length_map, List.length_map, List.length_range] at hlength
  omega

end Source

end MarkdownLint
