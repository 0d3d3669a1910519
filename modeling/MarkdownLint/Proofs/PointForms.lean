import MarkdownLint.Proofs.Entries
import MarkdownLint.Proofs.LoadedTree
import Mathlib.Data.List.Forall2

/-!
# The two forms of a point

A point of a position is given by its offset or by its line and column.  Both forms of a point
come to the same offset (`offset_of_pointMoved`), so the checks of an entry have the same result
whichever form its points have, up to what is below it (`fields_of_entryMoved`), and by induction
on the levels the same holds of all that is below (`build_of_moves`).  A document may contain
itself; then it has points in infinitely many places, and a relation says which ones are given in
the other form (`Moves`).
-/

namespace MarkdownLint.Source

variable (s : Source)

/-- Entries under the same keys in the same order, whose values are the same or else, with what
they stand for, related under their key. -/
def EntriesMoved (related : String → Value → Value → Prop) (es fs : List (Value × Value)) : Prop :=
  List.Forall₂ (fun e f => e.1 = f.1
    ∧ (e.2 = f.2 ∨ ∃ k, e.1 = .text k ∧ related k (s.resolve e.2) (s.resolve f.2))) es fs

/-- A point with an offset in the text, and one with the line and the column of that offset and
without an offset. -/
inductive PointMoved : Value → Value → Prop
  | lineColumn {v w : Value} {es fs : List (Value × Value)} {l : Location} {o : Int} {p : Position}
      (entries : s.entries? v = some es) (offset : s.lookup "offset" es = .int o)
      (location : s.location = some l) (position : l.toPosition o = .ok p)
      (entries' : s.entries? w = some fs) (noOffset : s.lookup "offset" fs = .null)
      (line : s.lookup "line" fs = .int p.line) (column : s.lookup "column" fs = .int p.column) :
      PointMoved v w

/-- Positions that differ in the form of their points. -/
inductive PositionMoved : Value → Value → Prop
  | points {v w : Value} {es fs : List (Value × Value)} (entries : v.entries? = some es)
      (entries' : w.entries? = some fs)
      (ends : s.EntriesMoved (fun k a b => (k = "start" ∨ k = "end") ∧ s.PointMoved a b) es fs) :
      PositionMoved v w

/-- What the fields of related entries can differ in: the points of the position, and the children,
which are related in turn. -/
def FieldMoved (R : Value → Value → Prop) (k : String) (a b : Value) : Prop :=
  k = "position" ∧ s.PositionMoved a b
    ∨ k = "children" ∧ ∃ items items', a = .list items ∧ b = .list items'
      ∧ List.Forall₂ R items items'

/-- Entries that differ in the form of their points, and in children that are related. -/
inductive EntryMoved (R : Value → Value → Prop) : Value → Value → Prop
  | fields {v w : Value} {es fs : List (Value × Value)} (entries : s.entries? v = some es)
      (entries' : s.entries? w = some fs) (moved : s.EntriesMoved (s.FieldMoved R) es fs) :
      EntryMoved R v w

/-- A relation that holds only between entries that differ in nothing but the form of points, in
themselves or somewhere below. -/
def Moves (R : Value → Value → Prop) : Prop :=
  ∀ v w, R v w → v = w ∨ s.EntryMoved R v w

variable {s}

theorem lookup_of_entriesMoved {related : String → Value → Value → Prop}
    {es fs : List (Value × Value)} (h : s.EntriesMoved related es fs) (key : String) :
    given key es = given key fs ∨ related key (s.lookup key es) (s.lookup key fs) := by
  unfold EntriesMoved at h
  induction h with
  | nil => exact .inl rfl
  | @cons e f es fs hef _ ih =>
    obtain ⟨k, v⟩ := e
    obtain ⟨k', w⟩ := f
    obtain ⟨rfl, hvalue⟩ := hef
    by_cases hk : k = .text key
    · subst hk
      rw [lookup, lookup, given, given, Value.lookup_cons_self, Value.lookup_cons_self]
      refine hvalue.imp id ?_
      rintro ⟨key', heq, hrelated⟩
      cases heq
      exact hrelated
    · rw [lookup, lookup, given, given, Value.lookup_cons_of_ne hk, Value.lookup_cons_of_ne hk]
      exact ih

theorem lookup_eq_of_given {key : String} {es fs : List (Value × Value)}
    (h : given key es = given key fs) : s.lookup key es = s.lookup key fs := by
  rw [lookup, lookup, h]

/-- Both forms of a point come to the same offset. -/
theorem offset_of_pointMoved (hs : s.TextInOrder) {v w : Value} (h : s.PointMoved v w) :
    s.offset v = s.offset w := by
  obtain ⟨hes, ho, hl, hp, hfs, hnull, hline, hcolumn⟩ := h
  rename_i l o p
  have horder := hs l hl
  have hoffset := Location.offset_of_toPosition horder hp
  have hback := Location.toOffset_of_toPosition horder hp
  have hwithin := (Location.exists_toPosition_iff horder).1 ⟨p, hp⟩
  have hv : s.offset v = .ok p.offset := by
    simp only [Source.offset, hes, ho, hl, Option.any_some, decide_eq_true_eq]
    rw [if_neg (by omega), if_neg (by omega), ← hoffset, Int.toNat_natCast]
  have hw : s.offset w = .ok p.offset := by
    simp only [Source.offset, hfs, hnull, hline, hcolumn, coordinate?, hl, hback]
    rfl
  rw [hv, hw]

theorem span_of_positionMoved (hs : s.TextInOrder) {v w : Value} (h : s.PositionMoved v w) :
    s.span v = s.span w := by
  obtain ⟨hes, hfs, hends⟩ := h
  rename_i es fs
  have hpoint : ∀ key, s.offset (s.lookup key es) = s.offset (s.lookup key fs) := by
    intro key
    rcases lookup_of_entriesMoved hends key with heq | ⟨-, hmoved⟩
    · rw [lookup_eq_of_given heq]
    · exact offset_of_pointMoved hs hmoved
  simp only [Source.span, hes, hfs, hpoint]

section Fields

variable {R : Value → Value → Prop} {es fs : List (Value × Value)}

theorem boundedSpan_of_entriesMoved (hs : s.TextInOrder)
    (h : s.EntriesMoved (s.FieldMoved R) es fs) (bound : Option Span) :
    s.boundedSpan bound es = s.boundedSpan bound fs := by
  rcases lookup_of_entriesMoved h "position" with heq | hfield
  · rw [boundedSpan, boundedSpan, lookup_eq_of_given heq]
  · obtain ⟨-, hmoved⟩ := hfield.resolve_right fun hkey => absurd hkey.1 (by decide)
    have hspan := span_of_positionMoved hs hmoved
    obtain ⟨hes, hfs, -⟩ := hmoved
    rw [boundedSpan, boundedSpan]
    generalize s.lookup "position" es = a at *
    generalize s.lookup "position" fs = b at *
    cases a with
    | map | orderedMap =>
      cases b with
      | map | orderedMap => simp only [hspan]
      | _ => cases hfs
    | _ => cases hes

theorem lookup_eq_of_entriesMoved (h : s.EntriesMoved (s.FieldMoved R) es fs) {key : String}
    (hposition : key ≠ "position") (hchildren : key ≠ "children") :
    s.lookup key es = s.lookup key fs := by
  rcases lookup_of_entriesMoved h key with heq | ⟨hkey, -⟩ | ⟨hkey, -⟩
  · exact lookup_eq_of_given heq
  · exact absurd hkey hposition
  · exact absurd hkey hchildren

/-- The children are refused alike, or else they are the same or related one by one. -/
theorem childrenOf_of_entriesMoved (h : s.EntriesMoved (s.FieldMoved R) es fs) :
    (∃ e, s.childrenOf es = .error e ∧ s.childrenOf fs = .error e)
      ∨ ∃ items items', s.childrenOf es = .ok items ∧ s.childrenOf fs = .ok items'
        ∧ List.Forall₂ (fun v w => v = w ∨ R v w) items items' := by
  rcases lookup_of_entriesMoved h "children" with heq | hfield
  · have hsame : s.childrenOf fs = s.childrenOf es := by
      rw [childrenOf, childrenOf, lookup_eq_of_given heq]
    rw [hsame]
    rcases s.childrenOf es with e | items
    · exact .inl ⟨e, rfl, rfl⟩
    · exact .inr ⟨items, items, rfl, rfl, List.forall₂_same.2 fun v _ => .inl rfl⟩
  · obtain ⟨-, items, items', hes, hfs, hitems⟩ :=
      hfield.resolve_left fun hkey => absurd hkey.1 (by decide)
    refine .inr ⟨items, items', ?_, ?_, hitems.imp fun v w hvw => .inr hvw⟩
    · rw [childrenOf, hes]
    · rw [childrenOf, hfs]

theorem dataOf_eq_ite (entries : List (Value × Value)) :
    dataOf entries = if (entries.map (·.1)).all (fun k => k.isShowable) then
      some (putEntries [] (entries.filterMap dataItem?)) else none := by
  rw [List.all_map]
  rfl

/-- The extra data is the same, since none of it is under the key of a field. -/
theorem dataOf_of_entriesMoved (h : s.EntriesMoved (s.FieldMoved R) es fs) :
    dataOf es = dataOf fs := by
  have hsame : es.map (·.1) = fs.map (·.1)
      ∧ es.filterMap dataItem? = fs.filterMap dataItem? := by
    unfold EntriesMoved at h
    induction h with
    | nil => exact ⟨rfl, rfl⟩
    | @cons e f es fs hef _ ih =>
      have hitem : dataItem? e = dataItem? f := by
        obtain ⟨k, v⟩ := e
        obtain ⟨k', w⟩ := f
        obtain ⟨rfl, rfl | ⟨key, rfl, hfield⟩⟩ := hef
        · rfl
        · have hreserved : key ∈ reservedKeys := by
            rcases hfield with ⟨rfl, -⟩ | ⟨rfl, -⟩ <;> decide
          rw [dataItem?_of_mem hreserved, dataItem?_of_mem hreserved]
      rw [List.map_cons, List.map_cons, hef.1, ih.1, List.filterMap_cons, List.filterMap_cons,
        hitem, ih.2]
      exact ⟨rfl, rfl⟩
  rw [dataOf_eq_ite, dataOf_eq_ite, hsame.1, hsame.2]

/-- The checks of an entry fail alike, or else they come to the same fields, and children that are
the same or related one by one. -/
theorem fields_of_entryMoved (hs : s.TextInOrder) {v w : Value} (h : s.EntryMoved R v w)
    (bound : Option Span) :
    (∃ e, s.fields bound v = .error e ∧ s.fields bound w = .error e)
      ∨ ∃ f items, s.fields bound v = .ok f
        ∧ s.fields bound w = .ok { f with children := items }
        ∧ List.Forall₂ (fun v w => v = w ∨ R v w) f.children items := by
  obtain ⟨hes, hfs, hmoved⟩ := h
  rename_i es fs
  have htype : s.lookup "type" es = s.lookup "type" fs :=
    lookup_eq_of_entriesMoved hmoved (by decide) (by decide)
  have hvalue : s.valueOf es = s.valueOf fs := by
    rw [valueOf, valueOf, lookup_eq_of_entriesMoved hmoved (by decide) (by decide)]
  have hspan := boundedSpan_of_entriesMoved hs hmoved bound
  have hdata := dataOf_of_entriesMoved hmoved
  simp only [fields, hes, hfs, htype, hvalue, hspan, hdata]
  cases s.lookup "type" fs with
  | text type =>
    by_cases hempty : type = ""
    · simp only [if_pos hempty]
      exact .inl ⟨_, rfl, rfl⟩
    · simp only [if_neg hempty]
      rcases s.boundedSpan bound fs with e | span
      · exact .inl ⟨_, rfl, rfl⟩
      rcases s.valueOf fs with e | value
      · exact .inl ⟨_, rfl, rfl⟩
      rcases childrenOf_of_entriesMoved hmoved with ⟨e, he, he'⟩ | ⟨items, items', hi, hi', hrel⟩
      · simp only [he, he']
        exact .inl ⟨_, rfl, rfl⟩
      · simp only [hi, hi']
        exact .inr ⟨_, items', rfl, rfl, hrel⟩
  | _ => exact .inl ⟨_, rfl, rfl⟩

end Fields

theorem eachFrom_congr {f : Nat → Value → Loading Node} {related : Value → Value → Prop}
    (hf : ∀ i v w, related v w → f i v = f i w) {vs ws : List Value} {i : Nat}
    (h : List.Forall₂ related vs ws) : eachFrom f i vs = eachFrom f i ws := by
  induction h generalizing i with
  | nil => rfl
  | cons hv _ ih => rw [eachFrom, eachFrom, hf i _ _ hv, ih]

/-- By induction on the levels: an entry in other forms of points is built in the same steps. -/
theorem build_of_moves (hs : s.TextInOrder) {R : Value → Value → Prop} (hR : s.Moves R)
    {levels : Nat} :
    ∀ {way : List Nat} {bound : Option Span} {v w : Value}, R v w →
      s.build levels way bound v = s.build levels way bound w := by
  induction levels with
  | zero =>
    intro way bound v w _
    rw [build, build]
  | succ levels ih =>
    intro way bound v w h
    rcases hR v w h with rfl | hmoved
    · rfl
    rw [build, build]
    rcases fields_of_entryMoved hs hmoved bound with ⟨e, he, he'⟩ | ⟨f, items, hf, hf', hitems⟩
    · rw [he, he']
    · rw [hf, hf']
      have hchildren : ∀ (i : Nat) (v w : Value), v = w ∨ R v w →
          s.build levels (i :: way) (f.span.or bound) v
            = s.build levels (i :: way) (f.span.or bound) w := by
        rintro i v w (rfl | hvw)
        · rfl
        · exact ih hvw
      dsimp only
      rw [eachFrom_congr hchildren hitems]

theorem load_eq_of_moves (hs : s.TextInOrder) {R : Value → Value → Prop} (hR : s.Moves R)
    {v w : Value} (h : R v w) : s.load v = s.load w := by
  rw [load, load, build_of_moves hs hR h]

/-- A value and one in which some points, at any depth, are given by the line and the column of
their offset load the same: to the same tree, or with the same error at the same path. -/
theorem load_other_points {limits : Limits} {collections : Array Value} {text : String}
    {R : Value → Value → Prop}
    (hR : Moves { limits, collections, location := some (.ofText text) } R) {v w : Value}
    (h : R v w) :
    load { limits, collections, location := some (.ofText text) } v
      = load { limits, collections, location := some (.ofText text) } w :=
  load_eq_of_moves (textInOrder_ofText limits collections (some text)) hR h

def offsetPoint (o : Int) : Value :=
  .map [(.text "offset", .int o)]

def lineColumnPoint (p : Position) : Value :=
  .map [(.text "line", .int p.line), (.text "column", .int p.column)]

theorem pointMoved_lineColumnPoint {l : Location} (hl : s.location = some l) {o : Int}
    {p : Position} (hp : l.toPosition o = .ok p) :
    s.PointMoved (offsetPoint o) (lineColumnPoint p) :=
  .lineColumn rfl rfl hl hp rfl rfl rfl rfl

/-- A paragraph that begins at a point and has a malformed end. -/
def endlessParagraph (start : Value) : Value :=
  .map [(.text "type", .text "paragraph"), (.text "position", .map [(.text "start", start),
    (.text "end", .map [(.text "offset", .bool true)])])]

/-- A root with one child that ends at a point. -/
def rootAround (stop child : Value) : Value :=
  .map [(.text "type", .text "root"), (.text "position", .map [(.text "start", offsetPoint 0),
    (.text "end", stop)]), (.text "children", .list [child])]

/-- The end of the text `a\r\nb`. -/
def textEnd : Position := { line := 2, column := 2, offset := 4 }

/-- The point between the two characters of its line end. -/
def betweenBreak : Position := { line := 1, column := 3, offset := 2 }

/-- A root up to the end of the text around a paragraph that begins within the line end, both in
both forms. -/
inductive RootMoved : Value → Value → Prop
  | root : RootMoved (rootAround (offsetPoint 4) (endlessParagraph (offsetPoint 2)))
      (rootAround (lineColumnPoint textEnd) (endlessParagraph (lineColumnPoint betweenBreak)))
  | paragraph : RootMoved (endlessParagraph (offsetPoint 2))
      (endlessParagraph (lineColumnPoint betweenBreak))

theorem moves_rootMoved : Moves { location := some (.ofText "a\r\nb") } RootMoved := by
  have horder := Location.ofText_inOrder "a\r\nb"
  have hend : (Location.ofText "a\r\nb").toPosition 4 = .ok textEnd :=
    Location.toPosition_eq horder (i := 1) (o := 4) ⟨by decide, by decide, by decide, by decide⟩
  have hbetween : (Location.ofText "a\r\nb").toPosition 2 = .ok betweenBreak :=
    Location.toPosition_eq horder (i := 0) (o := 2) ⟨by decide, by decide, by decide, by decide⟩
  rintro v w h
  cases h with
  | root =>
    have hpoint := pointMoved_lineColumnPoint
      (s := { location := some (.ofText "a\r\nb") }) rfl hend
    have hposition : PositionMoved { location := some (.ofText "a\r\nb") }
        (.map [(.text "start", offsetPoint 0), (.text "end", offsetPoint 4)])
        (.map [(.text "start", offsetPoint 0), (.text "end", lineColumnPoint textEnd)]) :=
      .points rfl rfl (.cons ⟨rfl, .inl rfl⟩
        (.cons ⟨rfl, .inr ⟨_, rfl, .inr rfl, hpoint⟩⟩ .nil))
    exact .inr (.fields rfl rfl (.cons ⟨rfl, .inl rfl⟩ (.cons
      ⟨rfl, .inr ⟨_, rfl, .inl ⟨rfl, hposition⟩⟩⟩ (.cons
      ⟨rfl, .inr ⟨_, rfl, .inr ⟨rfl, _, _, rfl, rfl, .cons .paragraph .nil⟩⟩⟩ .nil))))
  | paragraph =>
    have hpoint := pointMoved_lineColumnPoint
      (s := { location := some (.ofText "a\r\nb") }) rfl hbetween
    have hposition : PositionMoved { location := some (.ofText "a\r\nb") }
        (.map [(.text "start", offsetPoint 2), (.text "end", .map [(.text "offset", .bool true)])])
        (.map [(.text "start", lineColumnPoint betweenBreak),
          (.text "end", .map [(.text "offset", .bool true)])]) :=
      .points rfl rfl (.cons ⟨rfl, .inr ⟨_, rfl, .inl rfl, hpoint⟩⟩
        (.cons ⟨rfl, .inl rfl⟩ .nil))
    exact .inr (.fields rfl rfl (.cons ⟨rfl, .inl rfl⟩ (.cons
      ⟨rfl, .inr ⟨_, rfl, .inl ⟨rfl, hposition⟩⟩⟩ .nil)))

/-- Both forms of that root fail at the paragraph's end. -/
theorem load_other_points_between :
    Moves { location := some (.ofText "a\r\nb") } RootMoved
    ∧ load { location := some (.ofText "a\r\nb") }
        (rootAround (offsetPoint 4) (endlessParagraph (offsetPoint 2)))
      = load { location := some (.ofText "a\r\nb") }
        (rootAround (lineColumnPoint textEnd) (endlessParagraph (lineColumnPoint betweenBreak)))
    ∧ load { location := some (.ofText "a\r\nb") }
        (rootAround (offsetPoint 4) (endlessParagraph (offsetPoint 2)))
      = .error (.malformed ⟨[0], some .stop⟩ (.invalidOffset "True")) :=
  ⟨moves_rootMoved, load_other_points moves_rootMoved .root, rfl⟩

end MarkdownLint.Source
