import MarkdownLint.Proofs.DataPlaces
import MarkdownLint.Proofs.EntryFaults
import MarkdownLint.Proofs.LoadedTree
import MarkdownLint.Proofs.Positions

/-!
# Data that can be written

If no integer of the data is too long to be written, and the length of the text is not, then no
message and no key is: the offsets that points stand for are given or within the text
(`isWritable_of_pointAt`), so are the ends of spans (`isWritable_boundAt`), and the keys of entries
can be shown (`data_ne_none`).
-/

namespace MarkdownLint

namespace Value

theorem hereditary_isShowable : Hereditary IsShowable where
  null := rfl
  entry hes hv he := (hv.entries hes _ he).2
  item hlist hc := areShowable_iff.1 hlist _ hc

end Value

/-- Both ends of a span are short enough to be written. -/
structure Span.IsWritable (r : Span) : Prop where
  start : isWritable r.start
  stop : isWritable r.stop

namespace Source

/-- All integers of the data, and all offsets of the text, are short enough to be written. -/
structure Writable (s : Source) (root : Value) : Prop where
  root : root.IsShowable
  collections : ∀ v ∈ s.collections, v.IsShowable
  length : ∀ l, s.location = some l → isWritable l.length

example : Writable {} (.map [(.text "type", .text "root")]) :=
  ⟨rfl, by simp, by simp⟩

variable {s : Source} {root : Value} (hw : s.Writable root)

theorem isWritable_coordinate {v : Value} {n : Int} (hv : v.IsShowable)
    (h : coordinate? v = some n) : isWritable n := by
  have hone : isWritable 1 := by
    rw [isWritable, decide_eq_true_eq]
    exact one_lt_tenPow
  cases v with
  | int =>
    cases h
    exact hv
  | bool b =>
    cases h
    cases b
    · exact isWritable_of_le (Nat.zero_le 1) hone
    · exact hone
  | _ => cases h

theorem dataOf_eq_none {es : List (Value × Value)} {e : Value × Value} (he : e ∈ es)
    (hkey : ¬ e.1.IsShowable) : dataOf es = none := by
  rw [dataOf, if_neg]
  exact fun hall => hkey (List.all_eq_true.1 hall e he)

theorem mem_shown_of_findOffset {l : Location} {line column n : Int} {e : OutOfRange}
    (h : l.findOffset line column = .error e) (hn : n ∈ e.shown) : n = line ∨ n = column := by
  rcases Location.findOffset_eq_error h with ⟨-, hshown⟩ | ⟨-, hshown⟩ <;> rw [hshown] at hn
  · exact .inl (List.mem_singleton.1 hn)
  · simpa [or_comm] using hn

include hw

section Showing

theorem isShowable_lookup {v : Value} {es : List (Value × Value)} (hv : v.IsShowable)
    (hes : v.entries? = some es) (key : String) : (s.lookup key es).IsShowable :=
  lookup_of_hereditary Value.hereditary_isShowable hw.collections hv hes key

theorem isShowable_lookup_entries {v : Value} {es : List (Value × Value)} (hv : v.IsShowable)
    (hes : s.entries? v = some es) (key : String) : (s.lookup key es).IsShowable :=
  isShowable_lookup hw
    (resolve_of_hereditary Value.hereditary_isShowable hw.collections hv) hes key

theorem isShowableAmong_of_isShowable :
    ∀ (fuel : Nat) (within : List Nat) {v : Value}, v.IsShowable →
      v.isShowableAmong s.collections fuel within
  | 0, _, _, _ => rfl
  | fuel + 1, within, v, hv => by
    rw [Value.isShowableAmong]
    have hlink : (fun n => within.contains n
        || (s.collections.getD n .null).isShowableAmong s.collections fuel (n :: within))
        = fun _ => true := by
      funext n
      have hcollection : (s.collections.getD n .null).IsShowable :=
        resolve_of_hereditary (v := .ref n) Value.hereditary_isShowable hw.collections rfl
      rw [isShowableAmong_of_isShowable fuel (n :: within) hcollection, Bool.or_true]
    simp only [hlink]
    exact hv

end Showing

section Points

variable (hs : s.TextInOrder)

include hs in
theorem isWritable_of_pointAt {point : Value} {k : Nat} (hpoint : point.IsShowable)
    (h : s.PointAt point k) : isWritable k := by
  cases h with
  | offset hes hk =>
    have hoffset := isShowable_lookup_entries hw hpoint hes "offset"
    rw [hk] at hoffset
    exact hoffset
  | lineColumn _ _ _ _ hl hoffset =>
    exact isWritable_of_le (Location.toOffset_le_length (hs _ hl) hoffset) (hw.length _ hl)

include hs

theorem isWritable_of_span {position : Value} {r : Span} (hposition : position.IsShowable)
    (h : s.span position = .ok r) : r.IsWritable := by
  obtain ⟨ends, hends, hstart, hstop⟩ := span_eq_ok_iff_pointAt.1 h
  have hpoint := isShowable_lookup hw hposition hends
  exact ⟨isWritable_of_pointAt hw hs (hpoint "start") hstart,
    isWritable_of_pointAt hw hs (hpoint "end") hstop⟩

end Points

section Entries

variable (hs : s.TextInOrder) {bound : Option Span} {entry : Value}

include hs

theorem isWritable_of_spanOf (hentry : entry.IsShowable) {r : Span}
    (h : s.spanOf entry = some r) : r.IsWritable := by
  obtain ⟨es, hes, h⟩ := Option.bind_eq_some_iff.1 h
  refine isWritable_of_span hw hs (isShowable_lookup_entries hw hentry hes "position") ?_
  generalize s.span _ = result at *
  cases result with
  | error => cases h
  | ok r' => exact congrArg Except.ok (Option.some.inj h)

omit hs in
theorem data_ne_none {f : Fields} (hentry : entry.IsShowable)
    (h : s.fields bound entry = .ok f) : f.data ≠ none := by
  obtain ⟨es, hes, -, -, -, -, -, hdata⟩ := fields_eq_ok_iff.1 h
  have hresolved : (s.resolve entry).IsShowable :=
    resolve_of_hereditary Value.hereditary_isShowable hw.collections hentry
  have hkeys : es.all (fun e => e.1.isShowable) = true :=
    List.all_eq_true.2 fun e he => (hresolved.entries hes e he).1
  rw [hdata, dataOf, if_pos hkeys]
  exact Option.some_ne_none _

theorem isWritable_boundAt :
    ∀ {p : List Nat} {above : Option Span} {v : Value}, v.IsShowable →
      (∀ r, above = some r → r.IsWritable) →
      ∀ r, s.boundAt above v p = some r → r.IsWritable
  | [], above, v, _, habove, r, h => habove r h
  | i :: p, above, v, hv, habove, r, h => by
    rw [boundAt] at h
    split at h
    · rename_i c hc
      have hc := items_of_hereditary Value.hereditary_isShowable hw.collections hv
        (List.mem_of_getElem? hc)
      refine isWritable_boundAt hc (fun r' h' => ?_) r h
      rcases hspan : s.spanOf v with _ | r''
      · rw [hspan, Option.none_or] at h'
        exact habove r' h'
      · rw [hspan, Option.some_or] at h'
        exact isWritable_of_spanOf hw hs hv (hspan.trans h')
    · cases h

end Entries

end Source

end MarkdownLint
