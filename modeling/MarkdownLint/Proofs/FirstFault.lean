import MarkdownLint.Proofs.LoadCourse
import MarkdownLint.Proofs.Writable

/-!
# The first fault

Loading gives a tree, comes to a limit, or reports what is wrong with an entry.  The entry is at the
end of the path that the report names, what is said of it or of its point is so, and nothing is
wrong with any entry before it in pre-order (`load_first_fault`).  Only where some integer is too
long to be written can loading end by saying that.
-/

namespace MarkdownLint

theorem Span.ofInts_natCast {start stop : Nat} (h : start ≤ stop) :
    Span.ofInts start stop = .ok ⟨start, stop, h⟩ :=
  dif_pos ⟨Int.natCast_nonneg _, Int.ofNat_le.2 h⟩

theorem LoadError.ofEntryFault_eq (path : EntryPath) {f : EntryFault} (h : f ≠ .integerTooLong) :
    ofEntryFault path f = malformed path f := by
  cases f with
  | integerTooLong => exact absurd rfl h
  | _ => rfl

/-- A fault as it is reported: unless all integers can be written, an integer that is too long can
take its place. -/
def EntryFault.ReportedAs (writable : Prop) (cause fault : EntryFault) : Prop :=
  fault = cause ∨ fault = .integerTooLong ∧ ¬ writable

namespace Source

variable {s : Source} {root : Value}

section Reporting

theorem showing_reportedAs {writable : Prop} {integers : List Int} {f : EntryFault}
    (h : writable → ∀ n ∈ integers, isWritable n) :
    f.ReportedAs writable (showing .integerTooLong integers f) :=
  showing_eq_or h _ f

/-- A line and a column that are not in the text are reported as that, if they can be written. -/
theorem ofOutOfRange_reportedAs {writable : Prop} {e : OutOfRange} (line column : String)
    (h : writable → ∀ n ∈ e.shown, isWritable n) :
    (EntryFault.outOfRange e line column).ReportedAs writable
      (.ofLocation line column (.ofOutOfRange e)) := by
  rcases showing_eq_or h LocationError.integerTooLong (.outOfRange e) with heq | ⟨heq, hlong⟩
  · exact .inl (congrArg (EntryFault.ofLocation line column) heq)
  · exact .inr ⟨congrArg (EntryFault.ofLocation line column) heq, hlong⟩

theorem exists_pointBreaks_of_offset {point : Value} {f : EntryFault}
    (hpoint : s.Writable root → point.IsShowable) (h : s.offset point = .error f) :
    ∃ cause, s.PointBreaks point cause ∧ cause.ReportedAs (s.Writable root) f := by
  unfold Source.offset at h
  split at h
  · rename_i es hes
    have hlookup : s.Writable root → ∀ key, (s.lookup key es).IsShowable := fun hw =>
      isShowable_lookup_entries hw (hpoint hw) hes
    split at h
    · rename_i hnull
      dsimp only at h
      split at h
      · rename_i line column hl hc
        split at h
        · rename_i hlocation
          cases h
          exact ⟨_, .textNeeded hes hnull hl hc hlocation, .inl rfl⟩
        · rename_i location hlocation
          obtain ⟨_, hoffset, rfl⟩ := mapError_eq_error_iff.1 h
          obtain ⟨e, hfind, rfl⟩ := mapError_eq_error_iff.1 hoffset
          refine ⟨_, .outOfRange hes hnull hl hc hlocation hfind, ofOutOfRange_reportedAs _ _ ?_⟩
          intro hw n hn
          rcases mem_shown_of_findOffset hfind hn with rfl | rfl
          · exact isWritable_coordinate (hlookup hw _) hl
          · exact isWritable_coordinate (hlookup hw _) hc
      · rename_i hno
        cases h
        refine ⟨_, .incomplete hes hnull ?_, .inl rfl⟩
        rcases hl : coordinate? (s.lookup "line" es) with _ | l
        · exact .inl rfl
        · rcases hc : coordinate? (s.lookup "column" es) with _ | c
          · exact .inr rfl
          · exact absurd hc (hno l c hl)
    · rename_i n hn
      have hshown : s.Writable root → ∀ m ∈ [n], isWritable m := fun hw m hm => by
        have hoffset := hlookup hw "offset"
        rw [hn] at hoffset
        exact List.mem_singleton.1 hm ▸ hoffset
      split_ifs at h with hneg hpast
      · obtain rfl := Except.error.inj h
        refine ⟨_, .invalidOffset hes (by rw [hn]; exact Value.noConfusion) fun k hk => ?_, ?_⟩
        · rw [hn, Value.int.injEq] at hk
          omega
        · rw [shown_given_of_int hn]
          exact showing_reportedAs hshown
      · obtain rfl := Except.error.inj h
        obtain ⟨l, hl, hlt⟩ := (Option.any_eq_true _ _).1 hpast
        rw [decide_eq_true_eq] at hlt
        refine ⟨_, .offsetPastEnd (k := n.toNat) hes ?_ hl (by omega), showing_reportedAs hshown⟩
        rw [hn, Int.toNat_of_nonneg (by omega)]
    · rename_i hnull hint
      obtain rfl := Except.error.inj h
      refine ⟨_, .invalidOffset hes hnull fun k => hint k, ?_⟩
      rw [Source.invalidOffset]
      split_ifs with hshown
      · exact .inl rfl
      · refine .inr ⟨rfl, fun hw => hshown (isShowableAmong_of_isShowable hw _ _ ?_)⟩
        have hresolved :=
          resolve_of_hereditary Value.hereditary_isShowable hw.collections (hpoint hw)
        exact given_of_hereditary Value.hereditary_isShowable hresolved hes _
  · rename_i hes
    cases h
    exact ⟨_, .notMapping hes, .inl rfl⟩

variable (hs : s.TextInOrder)

include hs

theorem exists_positionBreaks_of_span {position : Value} {point : Option PointName}
    {f : EntryFault} (hposition : s.Writable root → position.IsShowable)
    (h : s.span position = .error (point, f)) :
    ∃ cause, s.PositionBreaks position point cause ∧ cause.ReportedAs (s.Writable root) f := by
  rw [Source.span] at h
  rcases hends : position.entries? with _ | ends
  · rw [hends] at h
    cases h
    exact ⟨_, .notMapping hends, .inl rfl⟩
  have hpoint : s.Writable root → ∀ key, (s.lookup key ends).IsShowable := fun hw =>
    isShowable_lookup hw (hposition hw) hends
  rw [hends] at h
  dsimp only at h
  rcases hstart : s.offset (s.lookup "start" ends) with fault | a
  · rw [hstart] at h
    cases h
    obtain ⟨cause, hcause, hreported⟩ :=
      exists_pointBreaks_of_offset (fun hw => hpoint hw "start") hstart
    exact ⟨cause, .start hends hcause, hreported⟩
  rcases hstop : s.offset (s.lookup "end" ends) with fault | b
  · rw [hstart, hstop] at h
    cases h
    obtain ⟨cause, hcause, hreported⟩ :=
      exists_pointBreaks_of_offset (fun hw => hpoint hw "end") hstop
    exact ⟨cause, .stop hends hcause, hreported⟩
  have ha := offset_eq_ok_iff.1 hstart
  have hb := offset_eq_ok_iff.1 hstop
  by_cases hle : a ≤ b
  · simp only [hstart, hstop, Except.mapError, bind, Except.bind, dif_pos hle] at h
    cases h
  · simp only [hstart, hstop, Except.mapError, bind, Except.bind, dif_neg hle] at h
    obtain ⟨rfl, rfl⟩ := Prod.mk.inj (Except.error.inj h)
    refine ⟨_, .endBeforeStart hends ha hb (by omega), showing_reportedAs fun hw => ?_⟩
    simp only [List.forall_mem_cons, List.not_mem_nil, false_imp_iff, implies_true, and_true]
    exact ⟨isWritable_of_pointAt hw hs (hpoint hw _) ha,
      isWritable_of_pointAt hw hs (hpoint hw _) hb⟩

variable {bound : Option Span} {entry : Value} {point : Option PointName} {f : EntryFault}
  (hentry : s.Writable root → entry.IsShowable)
  (hbound : s.Writable root → ∀ r, bound = some r → r.IsWritable)

include hentry hbound

theorem exists_breaks_of_boundedSpan {es : List (Value × Value)}
    (hes : s.entries? entry = some es) (h : s.boundedSpan bound es = .error (point, f)) :
    ∃ cause, s.Breaks bound entry point cause ∧ cause.ReportedAs (s.Writable root) f := by
  have hposition : s.Writable root → (s.lookup "position" es).IsShowable := fun hw =>
    isShowable_lookup_entries hw (hentry hw) hes _
  rw [boundedSpan] at h
  split at h
  · cases h
  · rename_i hpresent
    rcases hspan : s.span (s.lookup "position" es) with ⟨point', f'⟩ | r
    · rw [hspan] at h
      cases h
      obtain ⟨cause, hcause, hreported⟩ := exists_positionBreaks_of_span hs hposition hspan
      exact ⟨cause, .position hes hpresent hcause, hreported⟩
    · rw [hspan] at h
      rcases bound with _ | parent
      · cases h
      · simp only [bind, Except.bind] at h
        split_ifs at h with hcontains
        · cases h
        obtain ⟨rfl, rfl⟩ := Prod.mk.inj (Except.error.inj h)
        obtain ⟨ends, hends, hstart, hstop⟩ := span_eq_ok_iff_pointAt.1 hspan
        rw [Span.contains_iff] at hcontains
        refine ⟨_, .outsideParent hes hends hstart hstop rfl hcontains, showing_reportedAs ?_⟩
        intro hw
        have hr := isWritable_of_span hw hs (hposition hw) hspan
        have hparent := hbound hw parent rfl
        simp only [List.forall_mem_cons, List.not_mem_nil, false_imp_iff, implies_true, and_true]
        exact ⟨hr.start, hr.stop, hparent.start, hparent.stop⟩

/-- The checks of an entry fail with something that is wrong with it. -/
theorem exists_breaks_of_fields (h : s.fields bound entry = .error (point, f)) :
    ∃ cause, s.Breaks bound entry point cause ∧ cause.ReportedAs (s.Writable root) f := by
  rw [fields] at h
  rcases hes : s.entries? entry with _ | es
  · rw [hes] at h
    cases h
    exact ⟨_, .notMapping hes, .inl rfl⟩
  rw [hes] at h
  dsimp only at h
  split at h
  · rename_i type htype
    by_cases hempty : type = ""
    · rw [if_pos hempty] at h
      cases h
      refine ⟨_, .noType hes fun t ht => ?_, .inl rfl⟩
      rw [htype, Value.text.injEq] at ht
      exact ht ▸ hempty
    rw [if_neg hempty] at h
    rcases hspan : s.boundedSpan bound es with ⟨point', f'⟩ | span
    · rw [hspan] at h
      cases h
      exact exists_breaks_of_boundedSpan hs hentry hbound hes hspan
    rcases hvalue : s.valueOf es with f' | value
    · rw [hspan, hvalue] at h
      cases h
      rw [valueOf] at hvalue
      split at hvalue <;> cases hvalue
      rename_i hpresent hnot
      exact ⟨_, .valueNotText hes hpresent hnot, .inl rfl⟩
    rcases hchildren : s.childrenOf es with f' | children
    · rw [hspan, hvalue, hchildren] at h
      cases h
      rw [childrenOf] at hchildren
      split at hchildren <;> cases hchildren
      rename_i hpresent hnot
      exact ⟨_, .childrenNotList hes hpresent hnot, .inl rfl⟩
    · rw [hspan, hvalue, hchildren] at h
      cases h
  · rename_i hno
    cases h
    exact ⟨_, .noType hes fun t ht => absurd ht (hno t), .inl rfl⟩

end Reporting

/-- An entry fails its checks under the bound of its place, and none before it in pre-order does. -/
structure FirstFault (s : Source) (root : Value) (path : EntryPath) (fault : EntryFault) :
    Prop where
  breaks : ∃ entry, s.entryAt root path.indexes = some entry
    ∧ s.Breaks (s.boundAt none root path.indexes) entry path.point fault
  first : ∀ (p : List Nat) (entry : Value), p < path.indexes → s.entryAt root p = some entry →
    ∀ (point : Option PointName) (f : EntryFault),
      ¬ s.Breaks (s.boundAt none root p) entry point f

/-- The first place that does not pass is stopped by a limit, or has the first fault, or has to
show an integer that is too long. -/
theorem firstFault_of_stops {l : Limits} {e : LoadError} (hs : s.TextInOrder) {p : List Nat}
    {d : Place} (hd : s.placeAt (.root root) p = some d) (hstops : Loads.Stops s l.guard d e)
    (hbefore : ∀ q b, q < p → s.placeAt (.root root) q = some b → Loads.Passed s l.guard b) :
    (e = .tooManyNodes l.nodeCount ∨ e = .tooDeep l.treeDepth)
    ∨ e = .integerTooLong ∧ ¬ (l.Writable ∧ s.Writable root)
    ∨ ∃ point fault, e = .malformed ⟨p, point⟩ fault ∧ s.FirstFault root ⟨p, point⟩ fault := by
  obtain ⟨entry, hentry, rfl⟩ := placeAt_root_eq_some_iff.1 hd
  have hentry' : s.Writable root → entry.IsShowable := fun hw =>
    entryAt_of_hereditary Value.hereditary_isShowable hw.collections hw.root hentry
  have hbound : s.Writable root → ∀ r, s.boundAt none root p = some r → r.IsWritable := fun hw =>
    isWritable_boundAt hw hs hw.root fun _ h => by cases h
  cases hstops with
  | guard hguard =>
    exact (guard_eq_some hguard).imp id fun ⟨he, hlong⟩ => .inl ⟨he, fun hw => hlong hw.1⟩
  | unshown hfields hdata =>
    exact .inr (.inl ⟨rfl, fun hw => data_ne_none hw.2 (hentry' hw.2) hfields hdata⟩)
  | @fault point fault hfields =>
    obtain ⟨cause, hcause, rfl | ⟨rfl, hlong⟩⟩ := exists_breaks_of_fields hs hentry' hbound hfields
    · refine .inr (.inr ⟨point, fault, LoadError.ofEntryFault_eq _ hcause.ne_integerTooLong,
        ⟨entry, hentry, hcause⟩, fun q v hq hv point' f => ?_⟩)
      obtain ⟨-, fs, hfs⟩ := hbefore q _ hq (placeAt_root_eq_some_iff.2 ⟨v, hv, rfl⟩)
      exact not_breaks_of_fields hfs
    · exact .inr (.inl ⟨rfl, fun hw => hlong hw.2⟩)

/-- What loading ends with without a tree: the error of a limit, the first fault, or that of an
integer that is too long. -/
theorem load_eq_error (limits : Limits) (collections : Array Value) (text : Option String)
    {root : Value} {e : LoadError} :
    let s : Source := { limits, collections, location := text.map .ofText }
    s.load root = .error e →
      (e = .tooManyNodes limits.nodeCount ∨ e = .tooDeep limits.treeDepth)
      ∨ e = .integerTooLong ∧ ¬ (limits.Writable ∧ s.Writable root)
      ∨ ∃ path fault, e = .malformed path fault ∧ s.FirstFault root path fault := by
  intro s hload
  obtain ⟨log, hloads⟩ := load_eq_iff.1 hload
  obtain ⟨p, d, hd, hstops, hbefore⟩ := hloads.stops_root
  rcases firstFault_of_stops (textInOrder_ofText limits collections text) hd hstops hbefore
    with hlimit | hlong | ⟨point, fault, he, hfirst⟩
  · exact .inl hlimit
  · exact .inr (.inl hlong)
  · exact .inr (.inr ⟨⟨p, point⟩, fault, he, hfirst⟩)

/-- Loading a tree from any data, for any text or none and under any limits, gives a tree or one of
two kinds of errors, integers apart that are too long to be written.  An error of the first kind is
that of a limit.  One of the second names the path to an entry or to one of its points, what it says
of the entry there is so, and nothing is wrong with any entry before it in pre-order.  Where two
points have been read, in order, the span from one to the other can always be made. -/
theorem load_first_fault (limits : Limits) (collections : Array Value) (text : Option String)
    (root : Value) :
    let s : Source := { limits, collections, location := text.map .ofText }
    ((∃ t, s.load root = .ok t)
      ∨ (∃ e, s.load root = .error e ∧ e.kind = "TreeSafetyError"
        ∧ (e = .tooManyNodes limits.nodeCount ∨ e = .tooDeep limits.treeDepth))
      ∨ (s.load root = .error .integerTooLong ∧ ¬ (limits.Writable ∧ s.Writable root))
      ∨ ∃ (e : LoadError) (path : EntryPath) (fault : EntryFault),
        s.load root = .error e ∧ e.kind = "MalformedTreeError"
        ∧ e.path? = some ("root"
            ++ String.join (path.indexes.map fun i => ".children[" ++ toString i ++ "]")
            ++ match path.point with
              | none => ""
              | some .start => ".position.start"
              | some .stop => ".position.end")
        ∧ e.message = path.text ++ ": " ++ fault.message
        ∧ s.FirstFault root path fault)
    ∧ ∀ (position : Value) (ends : List (Value × Value)) (start stop : Nat),
        position.entries? = some ends → s.PointAt (s.lookup "start" ends) start →
        s.PointAt (s.lookup "end" ends) stop → start ≤ stop →
        ∃ r, Span.ofInts start stop = .ok r ∧ s.span position = .ok r := by
  intro s
  constructor
  · rcases hload : s.load root with e | t
    · refine .inr ?_
      rcases load_eq_error limits collections text hload
        with hlimit | ⟨rfl, hlong⟩ | ⟨path, fault, rfl, hfirst⟩
      · exact .inl ⟨e, rfl, kind_of_limit hlimit, hlimit⟩
      · exact .inr (.inl ⟨rfl, hlong⟩)
      · exact .inr (.inr ⟨_, path, fault, rfl, rfl, rfl, rfl, hfirst⟩)
    · exact .inl ⟨t, rfl⟩
  · intro position ends start stop hends hstart hstop hle
    exact ⟨⟨start, stop, hle⟩, Span.ofInts_natCast hle,
      span_eq_ok_iff_pointAt.2 ⟨ends, hends, hstart, hstop⟩⟩

/-- Of two children, the first has a position without points, the second is no mapping. -/
example : Source.load {} (.map [(.text "type", .text "root"), (.text "children", .list
      [.map [(.text "type", .text "text"), (.text "position", .map [])], .null])])
    = .error (.malformed ⟨[0], some .start⟩ .pointNotMapping) := by
  rfl

end Source

end MarkdownLint
