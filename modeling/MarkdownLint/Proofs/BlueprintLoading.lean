import MarkdownLint.Proofs.BlueprintEntries
import MarkdownLint.Yaml.Document

/-!
# Loading a blueprint

Where there is room, loading what spells a blueprint gives a twin of the tree that is built, if all
its spans lie within those above, and is refused if not, or if nothing can be built
(`comesTo_of_spelledBy`, `load_agrees`).  The two meet what is wrong in different orders: building
goes up from the parts, and loading goes down to them with the bounds.  So the errors are not
compared, only whether there is one (`Agrees`), and that goes up from the parts as building does
(`agreesOn_of_parts`).  The loader says that the tree is malformed, unless its message would have to
show an integer that is too long to be written (`load_agrees_far_line`).
-/

namespace MarkdownLint

namespace Source

open Blueprint

/-- What loading comes to agrees with what is built from any serial number: a result is the same as
one that is built and fits, and a refusal means that none is. -/
def Agrees {α : Type} (writable : Prop) (fits : α → Prop) (same : α → α → Prop)
    (built : Building α) : Except LoadError α → Prop
  | .ok u => ∀ k, ∃ t m, built k = .ok (t, m) ∧ fits t ∧ same u t
  | .error e => Refused writable e ∧ ∀ k t m, built k = .ok (t, m) → ¬ fits t

abbrev AgreesOn (writable : Prop) (l : Location) (bound : Option Span) (b : Blueprint) :
    Except LoadError Node → Prop :=
  Agrees writable (Node.InBounds bound) Node.Twin (buildFrom l b)

abbrev AgreesAlong (writable : Prop) (l : Location) (bound : Option Span) (bs : List Blueprint) :
    Except LoadError (List Node) → Prop :=
  Agrees writable (fun ts => ∀ t ∈ ts, t.InBounds bound) (List.Forall₂ Node.Twin) (buildAll l bs)

section Agreement

variable {writable : Prop} {l : Location} {b : Blueprint} {bs : List Blueprint}
  {bound span : Option Span} {e : LoadError}

theorem inBounds_mk_iff {serial : Nat} {type : String} {ts : List Node} {value : Option String}
    {data : List (String × Value)} :
    (⟨serial, type, ts, span, value, data⟩ : Node).InBounds bound
      ↔ Fits bound span ∧ ∀ t ∈ ts, t.InBounds (span.or bound) := by
  rw [Node.inBounds_iff]
  refine and_congr Iff.rfl ⟨fun h t ht => ?_, fun h i t ht => h t (List.mem_of_getElem? ht)⟩
  obtain ⟨i, hi⟩ := List.getElem?_of_mem ht
  exact h i t hi

theorem agreesAlong_cons {u : Node} {r : Except LoadError (List Node)}
    (h : AgreesOn writable l bound b (.ok u)) (hs : AgreesAlong writable l bound bs r) :
    AgreesAlong writable l bound (b :: bs) (r.map (u :: ·)) := by
  cases r with
  | error e =>
    obtain ⟨he, hnone⟩ := hs
    refine ⟨he, fun k ts m hts hfits => ?_⟩
    obtain ⟨t, n, us, -, hus, rfl⟩ := buildAll_cons_eq_ok_iff.1 hts
    exact hnone n us m hus fun t ht => hfits t (List.mem_cons_of_mem _ ht)
  | ok us =>
    intro k
    obtain ⟨t, n, ht, hin, htwin⟩ := h k
    obtain ⟨ts, m, hts, hins, htwins⟩ := hs n
    refine ⟨t :: ts, m, buildAll_cons_eq_ok_iff.2 ⟨t, n, ts, ht, hts, rfl⟩, ?_, .cons htwin htwins⟩
    exact List.forall_mem_cons.2 ⟨hin, hins⟩

theorem agreesAlong_of_head (h : AgreesOn writable l bound b (.error e)) :
    AgreesAlong writable l bound (b :: bs) (.error e) := by
  obtain ⟨he, hnone⟩ := h
  refine ⟨he, fun k ts m hts hfits => ?_⟩
  obtain ⟨t, n, us, ht, -, rfl⟩ := buildAll_cons_eq_ok_iff.1 hts
  exact hnone k t n ht (hfits t List.mem_cons_self)

theorem agreesOn_refused (he : Refused writable e)
    (h : ∀ span, b.ownSpan l = .ok span → ¬ Fits bound span) :
    AgreesOn writable l bound b (.error e) := by
  refine ⟨he, fun k t m ht hin => ?_⟩
  obtain ⟨ts, n, span, -, hspan, rfl, -⟩ := buildFrom_eq_ok_iff.1 ht
  exact h span hspan (inBounds_mk_iff.1 hin).1

/-- The agreement goes up from the parts, which have to lie within the span if there is one. -/
theorem agreesOn_of_parts (hspan : b.ownSpan l = .ok span) (hfits : Fits bound span)
    {r : Except LoadError (List Node)} (h : AgreesAlong writable l (span.or bound) b.children r)
    {data : List (String × Value)} (hdata : data.Perm b.outline.data) (serial : Nat) :
    AgreesOn writable l bound b
      (r.map fun us => ⟨serial, b.outline.type, us, span, b.outline.value, data⟩) := by
  cases r with
  | error e =>
    obtain ⟨he, hnone⟩ := h
    refine ⟨he, fun k t m ht hin => ?_⟩
    obtain ⟨ts, n, span', hts, hspan', rfl, -⟩ := buildFrom_eq_ok_iff.1 ht
    obtain rfl := Except.ok.inj (hspan.symm.trans hspan')
    exact hnone k ts n hts (inBounds_mk_iff.1 hin).2
  | ok us =>
    intro k
    obtain ⟨ts, n, hts, hins, htwins⟩ := h k
    exact ⟨_, _, buildFrom_eq_ok_iff.2 ⟨ts, n, span, hts, hspan, rfl, rfl⟩,
      inBounds_mk_iff.2 ⟨hfits, hins⟩, Node.twin_of_forall₂ htwins hdata _ _ _ _ _⟩

end Agreement

section Course

variable {s : Source} {l : Location} {writable : Prop}

theorem loads_of_forall₂ (path : List Nat) (bound : Option Span) {bs : List Blueprint}
    {vs : List Value} (h : List.Forall₂ (SpelledBy l) bs vs) {i : Nat} {log : List Place}
    (hroom : (log.length : Int) + Node.sizes (bs.map outline) ≤ s.limits.nodeCount)
    (hall : ∀ b ∈ bs, ∀ v, b.SpelledBy l v → ∀ (i : Nat) (log : List Place),
      (log.length : Int) + b.outline.size ≤ s.limits.nodeCount →
      ∃ r log', s.ComesTo s.limits.guard ⟨path ++ [i], bound, v⟩ log r log'
        ∧ (∀ u, r = .ok u → log'.length = log.length + b.outline.size)
        ∧ AgreesOn writable l bound b r) :
    ∃ r log', s.Loads s.limits.guard (placesFrom path bound i vs) log r log'
      ∧ (∀ us, r = .ok us → log'.length = log.length + Node.sizes (bs.map outline))
      ∧ AgreesAlong writable l bound bs r := by
  induction h generalizing i log with
  | nil => exact ⟨.ok [], log, .done, fun _ _ => rfl, fun k => ⟨[], k, rfl, nofun, .nil⟩⟩
  | @cons b v bs vs hv _ ih =>
    rw [List.map_cons, Node.sizes] at hroom ⊢
    obtain ⟨r, log₁, hcomes, hlength, hagrees⟩ :=
      hall b List.mem_cons_self v hv i log (by push_cast at hroom; omega)
    cases r with
    | error e =>
      exact ⟨.error e, log₁, hcomes _, fun _ hu => (by cases hu), agreesAlong_of_head hagrees⟩
    | ok u =>
      have hlength₁ := hlength u rfl
      have hroom₁ : (log₁.length : Int) + Node.sizes (bs.map outline) ≤ s.limits.nodeCount := by
        push_cast at hroom
        omega
      obtain ⟨rs, log₂, hloads, hlength₂, hagrees₂⟩ :=
        ih (i := i + 1) hroom₁ fun c hc => hall c (List.mem_cons_of_mem _ hc)
      refine ⟨rs.map (u :: ·), log₂, hcomes _ _ _ hloads, fun us hus => ?_,
        agreesAlong_cons hagrees hagrees₂⟩
      obtain ⟨us', hus', -⟩ := except_map_eq_ok_iff.1 hus
      rw [hlength₂ us' hus', hlength₁, Nat.add_assoc]

/-- At the end of a path there are enough levels left for a blueprint, all types are there in it,
and no data is under the key of a field. -/
def Admits (s : Source) (path : List Nat) (b : Blueprint) : Prop :=
  ∀ p n, b.outline.follow? p = some n →
    (path.length : Int) + p.length ≤ s.limits.treeDepth ∧ n.type ≠ "" ∧ n.DataApart

theorem Admits.child {path : List Nat} {b d : Blueprint} (h : s.Admits path b)
    (hd : d ∈ b.children) (i : Nat) : s.Admits (path ++ [i]) d := by
  intro p n hp
  have hmem : d.outline ∈ b.outline.children := by
    rw [outline_children]
    exact List.mem_map_of_mem hd
  obtain ⟨j, hj⟩ := List.getElem?_of_mem hmem
  obtain ⟨hdepth, hn⟩ := h (j :: p) n (Node.follow?_cons_eq_some_iff.2 ⟨_, hj, hp⟩)
  refine ⟨?_, hn⟩
  simp only [List.length_append, List.length_cons, List.length_nil] at hdepth ⊢
  omega

theorem stop_le_of_ownSpan (horder : l.InOrder) {b : Blueprint} {span : Option Span}
    (h : b.ownSpan l = .ok span) {r : Span} (hr : span = some r) : r.stop ≤ l.length := by
  obtain ⟨ends, hends⟩ := exists_ends horder b
  have hrel := (ownSpan_eq_ok_iff horder hends).1 h
  subst hr
  obtain hbetween | - := hrel
  exact Location.toOffset_le_length horder hbetween.stop

/-- By induction on the blueprint: loading what spells it agrees with building it, and comes to as
many places as there are nodes in its outline. -/
theorem comesTo_of_spelledBy (hl : s.location = some l) (horder : l.InOrder)
    (hcollections : s.collections = #[]) (hlength : writable → isWritable l.length)
    (b : Blueprint) :
    ∀ {c : Place} {log : List Place}, b.SpelledBy l c.entry → (writable → b.Everywhere IsWritable) →
      (∀ a, c.bound = some a → a.stop ≤ l.length) →
      (log.length : Int) + b.outline.size ≤ s.limits.nodeCount → s.Admits c.path b →
      ∃ r log', s.ComesTo s.limits.guard c log r log'
        ∧ (∀ u, r = .ok u → log'.length = log.length + b.outline.size)
        ∧ AgreesOn writable l c.bound b r := by
  induction b using Blueprint.childInduction with
  | step b ih =>
    intro c log hv hwritable hbound hroom hadmits
    obtain ⟨hdepth, htype, hdata⟩ := hadmits [] b.outline rfl
    rw [Node.size_eq] at hroom ⊢
    have hguard : s.limits.guard (log.length + 1) c = none :=
      guard_eq_none_iff.2 ⟨by push_cast at hroom ⊢; omega, by simpa using hdepth⟩
    rcases fields_of_spelledBy hl horder hcollections hbound hv htype hdata with
      ⟨span, children, data, hspan, hfits, hchildren, hperm, hfields⟩
        | ⟨point, f, hfields, hnone, hshown⟩
    · -- The parts lie within the span of the blueprint or, if it has none, within its bound.
      have hbound' : ∀ a, span.or c.bound = some a → a.stop ≤ l.length := by
        intro a ha
        rcases Option.or_eq_some_iff.1 ha with hspan' | ⟨-, hc⟩
        · exact stop_le_of_ownSpan horder hspan hspan'
        · exact hbound a hc
      have hroom' : ((c :: log).length : Int) + Node.sizes (b.children.map outline)
          ≤ s.limits.nodeCount := by
        rw [← outline_children, List.length_cons]
        push_cast at hroom ⊢
        omega
      obtain ⟨rs, log', hloads, hlog, hagrees⟩ :=
        loads_of_forall₂ c.path (span.or c.bound) hchildren (i := 0) hroom'
          fun d hd v hv i log hroom => ih d hd hv
            (fun hw => (everywhere_iff.1 (hwritable hw)).2 d hd) hbound' hroom (hadmits.child hd i)
      rw [← outline_children] at hlog
      have hnode := agreesOn_of_parts hspan hfits hagrees hperm log.length
      cases rs with
      | error e =>
        exact ⟨.error e, log', fun cs => .failed hguard hfields hloads, fun _ hu => (by cases hu),
          hnode⟩
      | ok us =>
        refine ⟨.ok _, log', fun cs r log₂ hafter => .made hguard hfields hloads rfl hafter,
          fun _ _ => ?_, hnode⟩
        rw [hlog us rfl, List.length_cons]
        omega
    · -- Loading stops here, while building would still have gone through the parts.
      have hrefused : Refused writable (.ofEntryFault ⟨c.path, point⟩ f) :=
        refused_ofEntryFault _ fun hw => hshown (hlength hw) (everywhere_iff.1 (hwritable hw)).1
      exact ⟨.error _, c :: log, fun cs => .refused hguard hfields, fun _ hu => (by cases hu),
        agreesOn_refused hrefused hnone⟩

theorem agreesOn_load (hl : s.location = some l) (horder : l.InOrder)
    (hcollections : s.collections = #[]) (hlength : writable → isWritable l.length)
    {b : Blueprint} {v : Value} (hv : b.SpelledBy l v)
    (hwritable : writable → b.Everywhere IsWritable)
    (hroom : (b.outline.size : Int) ≤ s.limits.nodeCount) (hadmits : s.Admits [] b) :
    AgreesOn writable l none b (s.load v) := by
  have hbound : ∀ a, (Place.root v).bound = some a → a.stop ≤ l.length := by
    intro a ha
    cases ha
  have hroom' : (([] : List Place).length : Int) + b.outline.size ≤ s.limits.nodeCount := by
    simpa using hroom
  obtain ⟨r, log, hcomes, -, hagrees⟩ := comesTo_of_spelledBy hl horder hcollections hlength b
    (c := .root v) hv hwritable hbound hroom' hadmits
  have hload : s.load v = r := by
    refine load_eq_iff.2 ⟨log, ?_⟩
    cases r with
    | error e => exact hcomes []
    | ok t => exact hcomes [] _ log .done
  rwa [hload]

end Course

end Source

theorem BuildError.kind_or (e : BuildError) :
    e.kind = "OutOfRangeError" ∨ e.kind = "ValueError" := by
  cases e with
  | location e => cases e <;> simp [kind, LocationError.kind]
  | invalidSpan => exact .inr rfl

namespace Blueprint

/-- A blueprint that a loader takes: every type is there, no data is under the key of a field, and
there are no more nodes and no more levels than the limits allow. -/
structure Loadable (limits : Limits) (b : Blueprint) : Prop where
  type_ne : ∀ p n, b.outline.follow? p = some n → n.type ≠ ""
  dataApart : ∀ p n, b.outline.follow? p = some n → n.DataApart
  length_walk_le : b.outline.walk.length ≤ limits.nodeCount
  depth_le : ∀ p n, b.outline.follow? p = some n → p.length ≤ limits.treeDepth

/-- All integers that a message about the ends of a blueprint can show are short enough to be
written. -/
def AllWritable (text : String) (b : Blueprint) : Prop :=
  isWritable text.length ∧ b.Everywhere IsWritable

variable {σ : Type} {loader : Loader σ} {text : String} {b : Blueprint} {v : Value}

theorem build_eq_ok_iff {t : Node} :
    b.build text = .ok t ↔ ∃ m, buildFrom (.ofText text) b 0 = .ok (t, m) := by
  rw [build, except_map_eq_ok_iff]
  constructor
  · rintro ⟨⟨u, m⟩, h, rfl⟩
    exact ⟨m, h⟩
  · rintro ⟨m, h⟩
    exact ⟨_, h, rfl⟩

theorem exists_build_iff : (∃ t, b.build text = .ok t)
    ↔ b.Everywhere (Resolves (.ofText text)) := by
  rw [everywhere_resolves_iff (Location.ofText_inOrder text) b 0]
  simp only [build_eq_ok_iff]

theorem not_resolves_of_build (h : (b.build text).toOption.isNone) :
    ¬ b.Everywhere (Resolves (.ofText text)) := by
  rw [← exists_build_iff]
  rintro ⟨t, ht⟩
  rw [ht] at h
  cases h

theorem load_of_spelledBy (hb : b.Loadable loader.limits)
    (hv : b.SpelledBy (.ofText text) v) :
    ∃ r, loader.loadValue v (some text) = r.map ({ root := · })
      ∧ Source.AgreesOn (b.AllWritable text) (.ofText text) none b r := by
  have hlength : b.AllWritable text → isWritable (Location.ofText text).length := fun hw => by
    rw [Location.ofText_length]
    exact hw.1
  have hroom : (b.outline.size : Int) ≤ loader.limits.nodeCount := by
    have hwalk := hb.length_walk_le
    rwa [Node.length_walk] at hwalk
  have hadmits : Source.Admits { limits := loader.limits, location := some (.ofText text) } [] b :=
    fun p n hp => ⟨by simpa using hb.depth_le p n hp, hb.type_ne p n hp, hb.dataApart p n hp⟩
  exact ⟨_, rfl, Source.agreesOn_load rfl (Location.ofText_inOrder text) rfl hlength hv
    (fun hw => hw.2) hroom hadmits⟩

/-- Building a blueprint over a text and loading what spells it agree.  If all its ends resolve, a
tree is built that has what it describes, and if each span is then within the one above, a tree is
loaded that is alike and has the same data.  If some do not, nothing is built or loaded: the loader
finds the tree malformed, unless there is an integer that its message could not show. -/
theorem load_agrees (hb : b.Loadable loader.limits) (hv : b.SpelledBy (.ofText text) v) :
    (b.Everywhere (Resolves (.ofText text)) → ∃ t, b.build text = .ok t
        ∧ b.Makes (.ofText text) t
        ∧ (t.InBounds none → ∃ u, loader.loadValue v (some text) = .ok u
          ∧ u.root.alike t ∧ u.root.SameData t))
      ∧ (¬ b.Everywhere (Resolves (.ofText text)) → (∃ e, b.build text = .error e
          ∧ (e.kind = "OutOfRangeError" ∨ e.kind = "ValueError"))
        ∧ ∃ e, loader.loadValue v (some text) = .error e
          ∧ (e.kind = "MalformedTreeError"
            ∨ e = .integerTooLong ∧ ¬ b.AllWritable text)) := by
  obtain ⟨r, hload, hagrees⟩ := load_of_spelledBy hb hv
  constructor
  · intro hresolves
    obtain ⟨t, ht⟩ := exists_build_iff.2 hresolves
    obtain ⟨m, hbuilt⟩ := build_eq_ok_iff.1 ht
    have hmakes := makes_of_buildFrom (Location.ofText_inOrder text) b hbuilt
    refine ⟨t, ht, hmakes, fun hin => ?_⟩
    cases r with
    | error e => exact absurd hin (hagrees.2 0 t m hbuilt)
    | ok u =>
      obtain ⟨t', m', hbuilt', -, halike, hdata⟩ := hagrees 0
      cases hbuilt.symm.trans hbuilt'
      exact ⟨_, hload, halike, hdata⟩
  · intro hnot
    refine ⟨?_, ?_⟩
    · rcases hbuild : b.build text with e | t
      · exact ⟨e, rfl, e.kind_or⟩
      · exact absurd (exists_build_iff.1 ⟨t, hbuild⟩) hnot
    · cases r with
      | error e =>
        refine ⟨e, hload, hagrees.1.imp ?_ id⟩
        rintro ⟨path, fault, rfl⟩
        rfl
      | ok u =>
        obtain ⟨t, m, hbuilt, -, -⟩ := hagrees 0
        exact absurd (exists_build_iff.1 ⟨t, build_eq_ok_iff.2 ⟨m, hbuilt⟩⟩) hnot

/-- A paragraph with data over a text of two lines, around a text and a node without a span. -/
def paragraphAround (start stop : LineColumn) : Blueprint :=
  .root [.node "paragraph" (1, 1) (2, 2) none [("depth", .int 2)]
    [.text "b" start stop, .generated "emphasis" none [] []]]

/-- The same spelled, its text without a list of children. -/
def paragraphValue (start stop : LineColumn) : Value :=
  .map [(.text "type", .text "root"), (.text "position", endsValue (1, 1) (2, 2)),
    (.text "children", .list [.map [(.text "type", .text "paragraph"),
      (.text "position", endsValue (1, 1) (2, 2)), (.text "children", .list [
        .map [(.text "type", .text "text"), (.text "value", .text "b"),
          (.text "position", endsValue start stop)],
        .map [(.text "type", .text "emphasis"), (.text "children", .list [])]]),
      (.text "depth", .int 2)]])]

theorem spelledBy_paragraphValue (start stop : LineColumn) :
    (paragraphAround start stop).SpelledBy (.ofText "a\nb") (paragraphValue start stop) := by
  have hend : (Location.ofText "a\nb").toPosition (Location.ofText "a\nb").length
      = .ok { line := 2, column := 2, offset := 3 } :=
    Location.toPosition_eq (Location.ofText_inOrder "a\nb") (i := 1) (o := 3)
      ⟨by decide, by decide, by decide, by decide⟩
  refine .entries (.root hend) (.some (endsSpelledBy_endsValue (1, 1) (2, 2)))
    (.cons ?paragraph .nil) (.cons _ (.swap _ _ _))
  refine .entries .node (.some (endsSpelledBy_endsValue (1, 1) (2, 2)))
    (.cons ?text (.cons ?generated .nil)) (.cons _ (.swap _ _ _))
  case text => exact .leaf .text (.some (endsSpelledBy_endsValue start stop)) rfl (.swap _ _ _)
  case generated => exact .entries .generated .none .nil (.refl _)

theorem loadable_paragraphAround (start stop : LineColumn) :
    (paragraphAround start stop).Loadable { nodeCount := 4, treeDepth := 2 } := by
  have hplaces : ∀ p n, (paragraphAround start stop).outline.follow? p = some n →
      n.type ≠ "" ∧ n.DataApart ∧ p.length ≤ (2 : Int) := by
    rintro (_ | ⟨_ | i, _ | ⟨_ | _ | j, _ | ⟨k, p⟩⟩⟩) n hp
    all_goals
      simp only [paragraphAround, outline, outlines, Node.follow?, List.getElem?_cons_zero,
        List.getElem?_cons_succ, List.getElem?_nil, Option.some.injEq, reduceCtorEq] at hp
    all_goals
      subst hp
      exact ⟨by simp, ⟨by simp, by simp [Source.reservedKeys]⟩, by simp⟩
  exact {
    type_ne := fun p n hp => (hplaces p n hp).1
    dataApart := fun p n hp => (hplaces p n hp).2.1
    length_walk_le := by
      rw [Node.length_walk]
      exact le_refl (4 : Int)
    depth_le := fun p n hp => (hplaces p n hp).2.2 }

theorem allWritable_paragraphAround {start stop : LineColumn}
    (h : ∀ n ∈ [start.1, start.2, stop.1, stop.2], isWritable n) :
    (paragraphAround start stop).AllWritable "a\nb" := by
  refine ⟨by decide +kernel, .intro nofun (List.forall_mem_singleton.2 (.intro ?paragraph ?below))⟩
  case paragraph =>
    show ∀ n ∈ ([1, 1, 2, 2] : List Int), isWritable n = true
    decide +kernel
  case below =>
    exact List.forall_mem_cons.2 ⟨.intro h nofun, List.forall_mem_singleton.2 (.intro nofun nofun)⟩

/-- The text `b` on the second line, and one that ends before it starts. -/
theorem load_agrees_paragraph :
    let loader := Yaml.loader { nodeCount := 4, treeDepth := 2 }
    ((paragraphAround (2, 1) (2, 2)).Loadable loader.limits
        ∧ (paragraphAround (2, 1) (2, 2)).SpelledBy (.ofText "a\nb") (paragraphValue (2, 1) (2, 2))
        ∧ ∃ t u, (paragraphAround (2, 1) (2, 2)).build "a\nb" = .ok t
          ∧ (paragraphAround (2, 1) (2, 2)).Makes (.ofText "a\nb") t ∧ t.InBounds none
          ∧ loader.loadValue (paragraphValue (2, 1) (2, 2)) (some "a\nb") = .ok u
          ∧ u.root.alike t ∧ u.root.SameData t)
      ∧ (paragraphAround (2, 2) (2, 1)).Loadable loader.limits
      ∧ (paragraphAround (2, 2) (2, 1)).SpelledBy (.ofText "a\nb") (paragraphValue (2, 2) (2, 1))
      ∧ ∃ e e', (paragraphAround (2, 2) (2, 1)).build "a\nb" = .error e
        ∧ loader.loadValue (paragraphValue (2, 2) (2, 1)) (some "a\nb") = .error e'
        ∧ e'.kind = "MalformedTreeError" := by
  intro loader
  have hloadable : ∀ start stop, (paragraphAround start stop).Loadable loader.limits :=
    loadable_paragraphAround
  constructor
  · have hspelled := spelledBy_paragraphValue (2, 1) (2, 2)
    refine ⟨hloadable _ _, hspelled, ?_⟩
    obtain ⟨t, hin, hbuild⟩ : ∃ t : Node, t.InBounds none
        ∧ (paragraphAround (2, 1) (2, 2)).build "a\nb" = .ok t := by
      refine ⟨⟨3, "root", [⟨2, "paragraph", [⟨0, "text", [], some ⟨2, 3, by decide⟩, some "b", []⟩,
        ⟨1, "emphasis", [], none, none, []⟩], some ⟨0, 3, by decide⟩, none, [("depth", .int 2)]⟩],
        some ⟨0, 3, by decide⟩, none, []⟩, ?_, rfl⟩
      simp [Source.inBounds_mk_iff, Source.Fits, Span.contains]
    obtain ⟨t', hbuild', hmakes, hloads⟩ :=
      (load_agrees (hloadable _ _) hspelled).1 (exists_build_iff.1 ⟨t, hbuild⟩)
    cases hbuild.symm.trans hbuild'
    obtain ⟨u, hu, hsame⟩ := hloads hin
    exact ⟨t, u, hbuild, hmakes, hin, hu, hsame⟩
  · have hspelled := spelledBy_paragraphValue (2, 2) (2, 1)
    refine ⟨hloadable _ _, hspelled, ?_⟩
    have hnot : ¬ (paragraphAround (2, 2) (2, 1)).Everywhere (Resolves (.ofText "a\nb")) :=
      not_resolves_of_build (by decide +kernel)
    obtain ⟨⟨e, hbuild, -⟩, e', he', hkind⟩ := (load_agrees (hloadable _ _) hspelled).2 hnot
    have hwritable : (paragraphAround (2, 2) (2, 1)).AllWritable "a\nb" :=
      allWritable_paragraphAround (by decide +kernel)
    exact ⟨e, e', hbuild, he', hkind.resolve_right fun h => h.2 hwritable⟩

/-- A line that is too long to be written is outside the text, but loading ends with the error of
writing it. -/
theorem load_agrees_far_line :
    let n : Int := (10 ^ mostDigits : Nat)
    (paragraphAround (n, 1) (2, 2)).Loadable { nodeCount := 4, treeDepth := 2 }
      ∧ (paragraphAround (n, 1) (2, 2)).SpelledBy (.ofText "a\nb") (paragraphValue (n, 1) (2, 2))
      ∧ ¬ (paragraphAround (n, 1) (2, 2)).Everywhere (Resolves (.ofText "a\nb"))
      ∧ ∃ e, (Yaml.loader { nodeCount := 4, treeDepth := 2 }).loadValue
          (paragraphValue (n, 1) (2, 2)) (some "a\nb") = .error e
        ∧ e.kind = "ValueError" := by
  intro n
  refine ⟨loadable_paragraphAround _ _, spelledBy_paragraphValue _ _,
    not_resolves_of_build (by decide +kernel), ?_⟩
  have hkind : (match (Yaml.loader { nodeCount := 4, treeDepth := 2 }).loadValue
      (paragraphValue (n, 1) (2, 2)) (some "a\nb") with
    | .error e => e.kind
    | .ok _ => "") = "ValueError" := by decide +kernel
  clear_value n
  rcases hload : (Yaml.loader { nodeCount := 4, treeDepth := 2 }).loadValue
    (paragraphValue (n, 1) (2, 2)) (some "a\nb") with e | u
  · rw [hload] at hkind
    exact ⟨e, rfl, hkind⟩
  · rw [hload] at hkind
    simp at hkind

end Blueprint

end MarkdownLint
