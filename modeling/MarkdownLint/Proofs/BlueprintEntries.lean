import MarkdownLint.Proofs.Blueprints
import MarkdownLint.Proofs.FirstFault
import MarkdownLint.Proofs.PointForms
import MarkdownLint.Proofs.Reports
import MarkdownLint.Proofs.Spelling

/-!
# The entries of a blueprint

A blueprint is spelled by mappings like a tree, with the ends of its spans by line and column
(`Blueprint.SpelledBy`); every blueprint is (`exists_spelledBy`).  The span of an entry that spells
a blueprint is the one that is built, as far as it lies within the bound (`boundedSpan_of_spelled`),
so the checks of the entry pass just if there is such a span, and come to what the outline of the
blueprint shows (`fields_of_spelledBy`).
-/

namespace MarkdownLint

namespace Blueprint

/-- A point by its line and its column. -/
inductive PointSpelledBy (p : LineColumn) : Value → Prop
  | entries {entries : List (Value × Value)}
      (perm : entries.Perm [(.text "line", .int p.1), (.text "column", .int p.2)]) :
    PointSpelledBy p (.map entries)

/-- A position by its two points. -/
inductive EndsSpelledBy (ends : LineColumn × LineColumn) : Value → Prop
  | entries {first last : Value} {entries : List (Value × Value)}
      (start : PointSpelledBy ends.1 first) (stop : PointSpelledBy ends.2 last)
      (perm : entries.Perm [(.text "start", first), (.text "end", last)]) :
    EndsSpelledBy ends (.map entries)

/-- A mapping that spells a blueprint over a text, its entries in any order.  A blueprint without
parts can go without a list of them. -/
inductive SpelledBy (l : Location) : Blueprint → Value → Prop
  | entries {b : Blueprint} {ends : Option (LineColumn × LineColumn)} {position : Option Value}
      {children : List Value} {entries : List (Value × Value)} (asks : b.Ends l ends)
      (spelled : Option.Rel EndsSpelledBy ends position)
      (below : List.Forall₂ (SpelledBy l) b.children children)
      (perm : entries.Perm (b.outline.spelledEntries position children)) :
    SpelledBy l b (.map entries)
  | leaf {b : Blueprint} {ends : Option (LineColumn × LineColumn)} {position : Option Value}
      {entries : List (Value × Value)} (asks : b.Ends l ends)
      (spelled : Option.Rel EndsSpelledBy ends position) (parts : b.children = [])
      (perm : ((.text "children", .list []) :: entries).Perm
        (b.outline.spelledEntries position [])) :
    SpelledBy l b (.map entries)

def pointValue (p : LineColumn) : Value :=
  .map [(.text "line", .int p.1), (.text "column", .int p.2)]

def endsValue (start stop : LineColumn) : Value :=
  .map [(.text "start", pointValue start), (.text "end", pointValue stop)]

theorem endsSpelledBy_endsValue (start stop : LineColumn) :
    EndsSpelledBy (start, stop) (endsValue start stop) :=
  .entries (.entries (.refl _)) (.entries (.refl _)) (.refl _)

theorem exists_spelledBy {l : Location} (horder : l.InOrder) (b : Blueprint) :
    ∃ v, b.SpelledBy l v := by
  induction b using childInduction with
  | step b ih =>
    obtain ⟨ends, hends⟩ := exists_ends horder b
    obtain ⟨position, hposition⟩ : ∃ position, Option.Rel EndsSpelledBy ends position := by
      cases ends with
      | none => exact ⟨none, .none⟩
      | some ends => exact ⟨_, .some (endsSpelledBy_endsValue ends.1 ends.2)⟩
    obtain ⟨children, hchildren⟩ := exists_forall₂ ih
    exact ⟨_, .entries hends hposition hchildren (.refl _)⟩

/-- The lines and the columns that a blueprint itself gives. -/
def coordinates : Blueprint → List Int
  | text _ start stop => [start.1, start.2, stop.1, stop.2]
  | node _ start stop _ _ _ => [start.1, start.2, stop.1, stop.2]
  | _ => []

/-- They are short enough to be written. -/
def IsWritable (b : Blueprint) : Prop :=
  ∀ n ∈ b.coordinates, isWritable n

end Blueprint

namespace Source

open Blueprint

section Positions

variable {s : Source} {l : Location} {p : LineColumn} {ends : LineColumn × LineColumn}
  {point position : Value} {r : Span}

theorem offset_of_pointSpelledBy (hl : s.location = some l) (h : PointSpelledBy p point) {o : Nat} :
    s.offset point = .ok o ↔ l.toOffset p.1 p.2 = .ok o := by
  obtain ⟨perm⟩ := h
  rename_i entries
  have hnd : (entries.map (·.1)).Nodup := (perm.map _).nodup_iff.2 (by simp)
  have hline : Value.lookup "line" entries = some (.int p.1) :=
    Value.lookup_eq_some_of_mem hnd (perm.mem_iff.2 (by simp))
  have hcolumn : Value.lookup "column" entries = some (.int p.2) :=
    Value.lookup_eq_some_of_mem hnd (perm.mem_iff.2 (by simp))
  have hoffset : Value.lookup "offset" entries = none := by
    refine Value.lookup_eq_none fun hmem => ?_
    rw [(perm.map _).mem_iff] at hmem
    simp at hmem
  have hentries : s.entries? (.map entries) = some entries := rfl
  rw [offset, hentries]
  simp only [lookup_of_lookup hoffset, lookup_of_lookup hline, lookup_of_lookup hcolumn,
    Option.getD_some, Option.getD_none, resolve, coordinate?, hl]
  exact mapError_eq_ok_iff

theorem span_of_endsSpelledBy (hl : s.location = some l) (h : EndsSpelledBy ends position) :
    s.span position = .ok r ↔ Between l ends r := by
  obtain ⟨hstart, hstop, perm⟩ := h
  rename_i start stop entries
  have hnd : (entries.map (·.1)).Nodup := (perm.map _).nodup_iff.2 (by simp)
  have hstartAt : Value.lookup "start" entries = some start :=
    Value.lookup_eq_some_of_mem hnd (perm.mem_iff.2 (by simp))
  have hstopAt : Value.lookup "end" entries = some stop :=
    Value.lookup_eq_some_of_mem hnd (perm.mem_iff.2 (by simp))
  have hresolve : ∀ {p : LineColumn} {v : Value}, PointSpelledBy p v → s.resolve v = v := by
    rintro p _ ⟨-⟩
    rfl
  rw [span_eq_ok_iff]
  simp only [Value.entries?, Option.some.injEq, exists_eq_left', lookup_of_lookup hstartAt,
    lookup_of_lookup hstopAt, Option.getD_some, hresolve hstart, hresolve hstop,
    offset_of_pointSpelledBy hl hstart, offset_of_pointSpelledBy hl hstop]
  exact ⟨fun ⟨hstart, hstop⟩ => ⟨hstart, hstop⟩, fun ⟨hstart, hstop⟩ => ⟨hstart, hstop⟩⟩

end Positions

section Entries

variable {s : Source} {l : Location} {b : Blueprint} {v : Value} {bound : Option Span}

theorem fields_cons_children {entries : List (Value × Value)}
    (h : Value.text "children" ∉ entries.map (·.1)) :
    s.fields bound (.map ((.text "children", .list []) :: entries))
      = s.fields bound (.map entries) := by
  have hlookup : ∀ key, key ≠ "children" →
      s.lookup key ((.text "children", .list []) :: entries) = s.lookup key entries := by
    intro key hkey
    have hne : Value.text "children" ≠ .text key := fun heq => hkey (Value.text.inj heq).symm
    rw [lookup, given, Value.lookup_cons_of_ne hne]
    rfl
  have hchildren : s.childrenOf ((.text "children", .list []) :: entries)
      = s.childrenOf entries := by
    have hnone : s.lookup "children" entries = .null := lookup_of_lookup (Value.lookup_eq_none h)
    have hnil : s.lookup "children" ((.text "children", .list []) :: entries) = .list [] :=
      lookup_of_lookup (Value.lookup_cons_self _ _ _)
    simp only [childrenOf, hnone, hnil]
  have hdata : dataOf ((.text "children", .list []) :: entries) = dataOf entries := by
    rw [dataOf_eq_ite, dataOf_eq_ite, List.map_cons, List.all_cons,
      List.filterMap_cons_none (dataItem?_of_mem (by decide) _)]
    rfl
  have hentries : ∀ es, s.entries? (.map es) = some es := fun _ => rfl
  simp only [fields, hentries, boundedSpan, valueOf, hchildren, hdata, hlookup "type" (by decide),
    hlookup "position" (by decide), hlookup "value" (by decide)]

theorem exists_entries_of_spelledBy (s : Source) (bound : Option Span) (h : b.SpelledBy l v)
    (hdata : b.outline.DataApart) :
    ∃ ends position children entries, b.Ends l ends ∧ Option.Rel EndsSpelledBy ends position
      ∧ List.Forall₂ (SpelledBy l) b.children children
      ∧ entries.Perm (b.outline.spelledEntries position children)
      ∧ s.fields bound v = s.fields bound (.map entries) := by
  cases h with
  | entries hends hposition hbelow hperm =>
    exact ⟨_, _, _, _, hends, hposition, hbelow, hperm, rfl⟩
  | leaf hends hposition hparts hperm =>
    -- With an empty list of children in front, the entries are those of the outline.
    refine ⟨_, _, [], _, hends, hposition, hparts ▸ .nil, hperm, (fields_cons_children ?_).symm⟩
    have hnd := (hperm.map (·.1)).nodup_iff.2 (Node.nodup_spelledEntries hdata _ _)
    rw [List.map_cons, List.nodup_cons] at hnd
    exact hnd.1

end Entries

section Refusals

/-- Loading is refused for a fault of an entry; or, unless all integers can be written, for one that
is too long. -/
def Refused (writable : Prop) (e : LoadError) : Prop :=
  (∃ path fault, e = .malformed path fault) ∨ e = .integerTooLong ∧ ¬ writable

theorem refused_ofEntryFault {writable : Prop} {f : EntryFault} (path : EntryPath)
    (h : writable → f ≠ .integerTooLong) : Refused writable (.ofEntryFault path f) := by
  by_cases hf : f = .integerTooLong
  · subst hf
    exact .inr ⟨rfl, fun hw => h hw rfl⟩
  · rw [LoadError.ofEntryFault_eq path hf]
    exact .inl ⟨path, f, rfl⟩

variable {s : Source} {l : Location} {b : Blueprint} {position : Value} {bound span : Option Span}
  {point : Option PointName} {f : EntryFault}

theorem isShowable_of_pointSpelledBy {p : LineColumn} {v : Value} (h : PointSpelledBy p v)
    (hline : isWritable p.1) (hcolumn : isWritable p.2) : v.IsShowable := by
  obtain ⟨perm⟩ := h
  refine Value.areShowableEntries_iff.2 fun e he => ?_
  have he := perm.mem_iff.1 he
  simp only [List.mem_cons, List.not_mem_nil, or_false] at he
  rcases he with rfl | rfl
  · exact ⟨rfl, hline⟩
  · exact ⟨rfl, hcolumn⟩

theorem isShowable_of_endsSpelledBy {ends : LineColumn × LineColumn}
    (h : EndsSpelledBy ends position)
    (hends : ∀ n ∈ [ends.1.1, ends.1.2, ends.2.1, ends.2.2], isWritable n) :
    position.IsShowable := by
  obtain ⟨hstart, hstop, perm⟩ := h
  simp only [List.mem_cons, List.not_mem_nil, or_false, forall_eq_or_imp, forall_eq] at hends
  refine Value.areShowableEntries_iff.2 fun e he => ?_
  have he := perm.mem_iff.1 he
  simp only [List.mem_cons, List.not_mem_nil, or_false] at he
  rcases he with rfl | rfl
  · exact ⟨rfl, isShowable_of_pointSpelledBy hstart hends.1 hends.2.1⟩
  · exact ⟨rfl, isShowable_of_pointSpelledBy hstop hends.2.2.1 hends.2.2.2⟩

theorem span_ne_integerTooLong (hl : s.location = some l) (horder : l.InOrder)
    (hcollections : s.collections = #[]) {ends : LineColumn × LineColumn}
    (h : EndsSpelledBy ends position)
    (hends : ∀ n ∈ [ends.1.1, ends.1.2, ends.2.1, ends.2.2], isWritable n)
    (hlength : isWritable l.length) (hspan : s.span position = .error (point, f)) :
    f ≠ .integerTooLong := by
  have hs : s.TextInOrder := fun l' hl' => by
    obtain rfl : l = l' := Option.some.inj (hl.symm.trans hl')
    exact horder
  have hw : s.Writable .null := by
    refine ⟨rfl, by simp [hcollections], fun l' hl' => ?_⟩
    obtain rfl : l = l' := Option.some.inj (hl.symm.trans hl')
    exact hlength
  have hposition : s.Writable .null → position.IsShowable := fun _ =>
    isShowable_of_endsSpelledBy h hends
  obtain ⟨cause, hcause, hreported⟩ := exists_positionBreaks_of_span hs hposition hspan
  rcases hreported with rfl | ⟨-, hnot⟩
  · exact hcause.ne_integerTooLong
  · exact absurd hw hnot

end Refusals

section Checks

variable {s : Source} {l : Location} {b : Blueprint} {v : Value} {bound : Option Span}

/-- A span, if there is one, lies within a bound, if there is one. -/
def Fits (bound span : Option Span) : Prop :=
  ∀ r, span = some r → ∀ a, bound = some a → a.contains r

theorem between_or_isWritable (horder : l.InOrder) {ends : LineColumn × LineColumn}
    (hends : b.Ends l (some ends)) (hwritable : b.IsWritable) :
    (∃ r, Between l ends r) ∨ ∀ n ∈ [ends.1.1, ends.1.2, ends.2.1, ends.2.2], isWritable n := by
  -- The end of a root is found, however long its line and column are.
  cases hends with
  | root hend => exact .inl ⟨_, between_whole horder hend⟩
  | text => exact .inr hwritable
  | node => exact .inr hwritable

theorem boundedSpan_eq_error {entries : List (Value × Value)} {point : Option PointName}
    {f : EntryFault} (h : s.boundedSpan bound entries = .error (point, f)) :
    s.span (s.lookup "position" entries) = .error (point, f)
      ∨ ∃ r a, s.span (s.lookup "position" entries) = .ok r ∧ bound = some a
        ∧ f = showing .integerTooLong [(r.start : Int), r.stop, a.start, a.stop]
          (.outsideParent r a) := by
  rw [boundedSpan] at h
  split at h
  · cases h
  rcases hspan : s.span (s.lookup "position" entries) with e | r
  · rw [hspan] at h
    cases h
    exact .inl rfl
  · rw [hspan] at h
    rcases bound with _ | a
    · cases h
    · simp only [bind, Except.bind] at h
      split_ifs at h
      · cases h
      obtain ⟨-, rfl⟩ := Prod.mk.inj (Except.error.inj h)
      exact .inr ⟨r, a, rfl, rfl, rfl⟩

variable {ends : Option (LineColumn × LineColumn)} {position : Option Value}
  {entries : List (Value × Value)} (hl : s.location = some l) (horder : l.InOrder)
  (hends : b.Ends l ends) (hspelled : Option.Rel EndsSpelledBy ends position)
  (hlookup : s.lookup "position" entries = s.resolve (position.getD .null))

include hl horder hends hspelled hlookup

theorem boundedSpan_of_spelled {span : Option Span} :
    s.boundedSpan bound entries = .ok span ↔ b.ownSpan l = .ok span ∧ Fits bound span := by
  rw [boundedSpan_eq_ok_iff, hlookup, ownSpan_eq_ok_iff horder hends]
  cases hspelled with
  | none =>
    constructor
    · rintro (⟨-, rfl⟩ | ⟨r, hne, -⟩)
      · exact ⟨.none, nofun⟩
      · exact absurd rfl hne
    · rintro ⟨⟨⟩, -⟩
      exact .inl ⟨rfl, rfl⟩
  | some h =>
    have hspan := fun r => span_of_endsSpelledBy (r := r) hl h
    obtain ⟨-, -, -⟩ := h
    constructor
    · rintro (⟨hnull, -⟩ | ⟨r, -, hr, hbound, rfl⟩)
      · cases hnull
      · refine ⟨.some ((hspan r).1 hr), ?_⟩
        rintro _ ⟨⟩ a ha
        exact hbound a ha
    · rintro ⟨hr | _, hfits⟩
      exact .inr ⟨_, Value.noConfusion, (hspan _).2 hr, fun a ha => hfits _ rfl a ha, rfl⟩

/-- A span that is refused can be shown, if the lines and columns of the blueprint can, and the
length of the text. -/
theorem boundedSpan_ne_integerTooLong (hcollections : s.collections = #[])
    (hbound : ∀ a, bound = some a → a.stop ≤ l.length) (hwritable : b.IsWritable)
    (hlength : isWritable l.length) {point : Option PointName} {f : EntryFault}
    (h : s.boundedSpan bound entries = .error (point, f)) : f ≠ .integerTooLong := by
  cases hspelled with
  | none =>
    have hnone : s.boundedSpan bound entries = .ok none :=
      boundedSpan_eq_ok_iff.2 (.inl ⟨hlookup, rfl⟩)
    rw [hnone] at h
    cases h
  | @some e p hp =>
    have hresolve : s.resolve p = p := by
      obtain ⟨-⟩ := hp
      rfl
    rw [Option.getD_some, hresolve] at hlookup
    rcases boundedSpan_eq_error h with hspan | ⟨r, a, hspan, ha, hf⟩
    · rw [hlookup] at hspan
      rcases between_or_isWritable horder hends hwritable with ⟨r, hr⟩ | hcoordinates
      · rw [(span_of_endsSpelledBy hl hp).2 hr] at hspan
        cases hspan
      · exact span_ne_integerTooLong hl horder hcollections hp hcoordinates hlength hspan
    · rw [hlookup] at hspan
      have hr := (span_of_endsSpelledBy hl hp).1 hspan
      have hstop : r.stop ≤ l.length := Location.toOffset_le_length horder hr.stop
      have hstart := r.start_le_stop
      have ha := hbound a ha
      have ha' := a.start_le_stop
      rw [hf, showing_of_isWritable]
      · exact EntryFault.noConfusion
      · simp only [List.mem_cons, List.not_mem_nil, or_false, forall_eq_or_imp, forall_eq]
        refine ⟨isWritable_of_le ?_ hlength, isWritable_of_le ?_ hlength,
          isWritable_of_le ?_ hlength, isWritable_of_le ?_ hlength⟩ <;> omega

end Checks

/-- The checks of an entry that spells a blueprint come to what its outline shows, with the span
that is built; or to a fault, if there is none or it does not fit. -/
theorem fields_of_spelledBy {s : Source} {l : Location} {b : Blueprint} {v : Value}
    {bound : Option Span} (hl : s.location = some l) (horder : l.InOrder)
    (hcollections : s.collections = #[]) (hbound : ∀ a, bound = some a → a.stop ≤ l.length)
    (h : b.SpelledBy l v) (htype : b.outline.type ≠ "") (hdata : b.outline.DataApart) :
    (∃ span children data, b.ownSpan l = .ok span ∧ Fits bound span
        ∧ List.Forall₂ (SpelledBy l) b.children children ∧ data.Perm b.outline.data
        ∧ s.fields bound v = .ok ⟨b.outline.type, span, b.outline.value, children, some data⟩)
      ∨ ∃ point f, s.fields bound v = .error (point, f)
        ∧ (∀ span, b.ownSpan l = .ok span → ¬ Fits bound span)
        ∧ (isWritable l.length → b.IsWritable → f ≠ .integerTooLong) := by
  obtain ⟨ends, position, children, entries, hends, hspelled, hbelow, hperm, hsame⟩ :=
    exists_entries_of_spelledBy s bound h hdata
  obtain ⟨hposition, data, hdataPerm, hfields⟩ :=
    fields_of_spelledEntries (s := s) bound htype hdata hperm
  rw [hsame, hfields]
  have hown : ∀ span, s.boundedSpan bound entries = .ok span
      ↔ b.ownSpan l = .ok span ∧ Fits bound span :=
    fun span => boundedSpan_of_spelled hl horder hends hspelled hposition
  rcases hspan : s.boundedSpan bound entries with ⟨point, f⟩ | span
  · refine .inr ⟨point, f, rfl, fun span hok hfits => ?_, fun hlength hwritable => ?_⟩
    · have := (hown span).2 ⟨hok, hfits⟩
      rw [hspan] at this
      cases this
    · exact boundedSpan_ne_integerTooLong hl horder hends hspelled hposition hcollections hbound
        hwritable hlength hspan
  · obtain ⟨hok, hfits⟩ := (hown span).1 hspan
    exact .inl ⟨span, children, data, hok, hfits, hbelow, hdataPerm, rfl⟩

end Source

end MarkdownLint
