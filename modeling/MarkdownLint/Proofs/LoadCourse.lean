import MarkdownLint.Proofs.DataPlaces
import MarkdownLint.Proofs.LoadedTree
import MarkdownLint.Proofs.Preorder

/-!
# The course of a load

`Loads` gives the rules by which entries are loaded one after the other, with the places come to on
the way.  What may stop it is a guard, so the same rules say what loading comes to under the limits
and without them.  `load_eq_iff` says that the rules under the limits are what `Source.load` does,
and `Loads.unique` that they leave nothing open.

By induction on the rules: all places come to are places of the data (`Loads.placeAt_path`); where
loading succeeds, each place of the data has passed the guard and its own checks (`Loads.passed`),
and the tree has its nodes at the same places under the same bounds (`Loads.mirrors`), which were
come to once each (`Loads.length_eq`) and in pre-order (`Loads.paths`); where it fails, there is a
first place in pre-order that stops it (`Loads.stops`).
-/

namespace MarkdownLint

namespace Source

/-- A place of the data: the path to it, the span that it has to lie within, and the entry there. -/
structure Place where
  path : List Nat
  bound : Option Span
  entry : Value

/-- The place of the whole data. -/
def Place.root (v : Value) : Place :=
  ⟨[], none, v⟩

/-- What stops loading at a place, given how many places it has come to with this one. -/
abbrev Guard := Nat → Place → Option LoadError

/-- There are no limits. -/
def unlimited : Guard := fun _ _ => none

end Source

/-- The limits that entries are loaded under are short enough to be written. -/
structure Limits.Writable (l : Limits) : Prop where
  nodeCount : isWritable l.nodeCount
  treeDepth : isWritable l.treeDepth

def Limits.guard (l : Limits) : Source.Guard := fun count c =>
  if l.nodeCount < count then some l.nodesExceeded
  else if l.treeDepth < c.path.length then some l.depthExceeded
  else none

namespace Source

/-- The places of some children, the first of which has index `i`. -/
def placesFrom (path : List Nat) (bound : Option Span) : Nat → List Value → List Place
  | _, [] => []
  | i, v :: vs => ⟨path ++ [i], bound, v⟩ :: placesFrom path bound (i + 1) vs

/-- The places right below one with an entry that has passed its checks. -/
def Place.below (c : Place) (f : Fields) : List Place :=
  placesFrom c.path (f.span.or c.bound) 0 f.children

/-- The place at the end of a path that goes on from a place. -/
def placeAt (s : Source) (c : Place) (p : List Nat) : Option Place :=
  (s.entryAt c.entry p).map fun v => ⟨c.path ++ p, s.boundAt c.bound c.entry p, v⟩

/-- Loading the entries at some places one after the other: where the places of one log have been
come to, the last one first, it comes to a result and to the places of another log. -/
inductive Loads (s : Source) (g : Guard) :
    List Place → List Place → Except LoadError (List Node) → List Place → Prop
  | done {log : List Place} : Loads s g [] log (.ok []) log
  | stopped {c : Place} {cs log : List Place} {e : LoadError}
      (guard : g (log.length + 1) c = some e) : Loads s g (c :: cs) log (.error e) (c :: log)
  | refused {c : Place} {cs log : List Place} {point : Option PointName} {fault : EntryFault}
      (guard : g (log.length + 1) c = none)
      (fields : s.fields c.bound c.entry = .error (point, fault)) :
      Loads s g (c :: cs) log (.error (.ofEntryFault ⟨c.path, point⟩ fault)) (c :: log)
  | failed {c : Place} {cs log log' : List Place} {f : Fields} {e : LoadError}
      (guard : g (log.length + 1) c = none) (fields : s.fields c.bound c.entry = .ok f)
      (below : Loads s g (c.below f) (c :: log) (.error e) log') :
      Loads s g (c :: cs) log (.error e) log'
  | unshown {c : Place} {cs log log' : List Place} {f : Fields} {children : List Node}
      (guard : g (log.length + 1) c = none) (fields : s.fields c.bound c.entry = .ok f)
      (below : Loads s g (c.below f) (c :: log) (.ok children) log') (data : f.data = none) :
      Loads s g (c :: cs) log (.error .integerTooLong) log'
  | made {c : Place} {cs log log₁ log₂ : List Place} {f : Fields} {children : List Node}
      {data : List (String × Value)} {r : Except LoadError (List Node)}
      (guard : g (log.length + 1) c = none) (fields : s.fields c.bound c.entry = .ok f)
      (below : Loads s g (c.below f) (c :: log) (.ok children) log₁) (data_eq : f.data = some data)
      (after : Loads s g cs log₁ r log₂) :
      Loads s g (c :: cs) log
        (r.map (⟨log.length, f.type, children, f.span, f.value, data⟩ :: ·)) log₂

variable {s : Source} {g : Guard}

section Places

theorem rel_getElem?_of_forall₂ {α β : Type} {R : α → β → Prop} :
    ∀ {as : List α} {bs : List β}, List.Forall₂ R as bs → ∀ i : Nat, Option.Rel R as[i]? bs[i]?
  | _, _, .nil, _ => .none
  | _, _, .cons h _, 0 => .some h
  | _, _, .cons _ h, i + 1 => rel_getElem?_of_forall₂ h i

theorem getElem?_placesFrom (path : List Nat) (bound : Option Span) :
    ∀ (vs : List Value) (i j : Nat),
      (placesFrom path bound i vs)[j]? = vs[j]?.map fun v => ⟨path ++ [i + j], bound, v⟩
  | [], i, j => rfl
  | v :: vs, i, 0 => rfl
  | v :: vs, i, j + 1 => by
    rw [placesFrom, List.getElem?_cons_succ, List.getElem?_cons_succ,
      getElem?_placesFrom path bound, Nat.add_right_comm, Nat.add_assoc]

theorem length_placesFrom (path : List Nat) (bound : Option Span) :
    ∀ (vs : List Value) (i : Nat), (placesFrom path bound i vs).length = vs.length
  | [], _ => rfl
  | _ :: vs, i => congrArg Nat.succ (length_placesFrom path bound vs (i + 1))

theorem getElem?_below (c : Place) (f : Fields) (i : Nat) :
    (c.below f)[i]?
      = f.children[i]?.map fun v => ⟨c.path ++ [i], f.span.or c.bound, v⟩ := by
  rw [Place.below, getElem?_placesFrom, Nat.zero_add]

theorem placeAt_nil (c : Place) : s.placeAt c [] = some c := by
  simp [placeAt, entryAt, boundAt]

theorem placeAt_root_eq_some_iff {root : Value} {p : List Nat} {c : Place} :
    s.placeAt (.root root) p = some c
      ↔ ∃ v, s.entryAt root p = some v ∧ c = ⟨p, s.boundAt none root p, v⟩ := by
  rw [placeAt, Option.map_eq_some_iff]
  simp only [Place.root, List.nil_append, eq_comm]

/-- Below an entry that has passed its checks, the places are those of its children. -/
theorem placeAt_cons {c : Place} {f : Fields} (hf : s.fields c.bound c.entry = .ok f) (i : Nat)
    (p : List Nat) : s.placeAt c (i :: p) = (c.below f)[i]?.bind fun b => s.placeAt b p := by
  rw [getElem?_below, placeAt, entryAt, boundAt, items_of_fields hf, spanOf_of_fields hf]
  cases f.children[i]? with
  | none => rfl
  | some v => simp [placeAt]

theorem placeAt_cons_eq_some_iff {c d : Place} {f : Fields}
    (hf : s.fields c.bound c.entry = .ok f) {i : Nat} {p : List Nat} :
    s.placeAt c (i :: p) = some d ↔ ∃ b, (c.below f)[i]? = some b ∧ s.placeAt b p = some d := by
  rw [placeAt_cons hf, Option.bind_eq_some_iff]

end Places

namespace Loads

variable {cs log log' : List Place} {r : Except LoadError (List Node)}

section Course

/-- Loading goes on from the places that it has come to before. -/
theorem suffix (h : s.Loads g cs log r log') : log <:+ log' := by
  induction h with
  | done => exact List.suffix_rfl
  | stopped _ | refused _ _ => exact List.suffix_cons _ _
  | failed _ _ _ ih | unshown _ _ _ _ ih => exact (List.suffix_cons _ _).trans ih
  | made _ _ _ _ _ ih iha => exact ((List.suffix_cons _ _).trans ih).trans iha

theorem unique (h : s.Loads g cs log r log') :
    ∀ {r₂ : Except LoadError (List Node)} {log₂ : List Place},
      s.Loads g cs log r₂ log₂ → r₂ = r ∧ log₂ = log' := by
  induction h with
  | done =>
    rintro _ _ ⟨⟩
    exact ⟨rfl, rfl⟩
  | stopped hg | refused hg hf =>
    intro _ _ h₂
    cases h₂ <;> simp_all
  | failed hg hf _ ih | unshown hg hf _ _ ih =>
    intro _ _ h₂
    cases h₂ with
    | stopped | refused => simp_all
    | failed _ hf₂ hbelow₂ | unshown _ hf₂ hbelow₂ | made _ hf₂ hbelow₂ =>
      obtain rfl := Except.ok.inj (hf.symm.trans hf₂)
      have := ih hbelow₂
      simp_all
  | made hg hf _ hdata _ ih iha =>
    intro _ _ h₂
    cases h₂ with
    | stopped | refused => simp_all
    | failed _ hf₂ hbelow₂ | unshown _ hf₂ hbelow₂ =>
      obtain rfl := Except.ok.inj (hf.symm.trans hf₂)
      have := ih hbelow₂
      simp_all
    | made _ hf₂ hbelow₂ hdata₂ hafter₂ =>
      obtain rfl := Except.ok.inj (hf.symm.trans hf₂)
      obtain ⟨heq, rfl⟩ := ih hbelow₂
      obtain rfl := Except.ok.inj heq
      obtain ⟨rfl, rfl⟩ := iha hafter₂
      obtain rfl := Option.some.inj (hdata.symm.trans hdata₂)
      exact ⟨rfl, rfl⟩

/-- All places that loading comes to are at or below those it was to load. -/
theorem mem (h : s.Loads g cs log r log') {d : Place} (hd : d ∈ log') :
    d ∈ log ∨ ∃ c ∈ cs, ∃ p, s.placeAt c p = some d := by
  -- A place below the head of the places is one of its children's.
  have hbelow : ∀ {c : Place} {cs : List Place} {f : Fields},
      s.fields c.bound c.entry = .ok f → (∃ b ∈ c.below f, ∃ p, s.placeAt b p = some d) →
      ∃ c' ∈ c :: cs, ∃ p, s.placeAt c' p = some d := by
    rintro c cs f hf ⟨b, hb, p, hp⟩
    obtain ⟨i, hi⟩ := List.getElem?_of_mem hb
    exact ⟨c, List.mem_cons_self, i :: p, (placeAt_cons_eq_some_iff hf).2 ⟨b, hi, hp⟩⟩
  have hself : ∀ {c : Place} {cs : List Place}, d = c →
      ∃ c' ∈ c :: cs, ∃ p, s.placeAt c' p = some d := by
    rintro c cs rfl
    exact ⟨d, List.mem_cons_self, [], placeAt_nil d⟩
  induction h with
  | done => exact .inl hd
  | stopped _ | refused _ _ => exact (List.mem_cons.1 hd).elim (fun h => .inr (hself h)) .inl
  | failed _ hf _ ih | unshown _ hf _ _ ih =>
    rcases ih hd with hlog | hplace
    · exact (List.mem_cons.1 hlog).elim (fun h => .inr (hself h)) .inl
    · exact .inr (hbelow hf hplace)
  | made _ hf _ _ _ ih iha =>
    rcases iha hd with hlog | ⟨c, hc, hp⟩
    · rcases ih hlog with hlog | hplace
      · exact (List.mem_cons.1 hlog).elim (fun h => .inr (hself h)) .inl
      · exact .inr (hbelow hf hplace)
    · exact .inr ⟨c, List.mem_cons_of_mem _ hc, hp⟩

theorem placeAt_path {root : Value} {d : Place} (h : s.Loads g [.root root] [] r log')
    (hd : d ∈ log') :
    s.placeAt (.root root) d.path = some d := by
  rcases h.mem hd with hd | ⟨c, hc, p, hp⟩
  · cases hd
  · rw [List.mem_singleton.1 hc] at hp
    obtain ⟨v, -, hdp⟩ := placeAt_root_eq_some_iff.1 hp
    rwa [show d.path = p from congrArg Place.path hdp]

end Course

section Success

/-- A place has passed the guard and its own checks. -/
structure Passed (s : Source) (g : Guard) (c : Place) : Prop where
  guard : ∃ count, g count c = none
  fields : ∃ f, s.fields c.bound c.entry = .ok f

/-- A place and all below it have. -/
def AllPassed (s : Source) (g : Guard) (c : Place) : Prop :=
  ∀ p d, s.placeAt c p = some d → Passed s g d

theorem allPassed_of_below {c : Place} {f : Fields} (hc : Passed s g c)
    (hf : s.fields c.bound c.entry = .ok f) (hbelow : ∀ b ∈ c.below f, AllPassed s g b) :
    AllPassed s g c := by
  intro p d hd
  cases p with
  | nil =>
    rw [placeAt_nil] at hd
    cases hd
    exact hc
  | cons i p =>
    obtain ⟨b, hb, hd⟩ := (placeAt_cons_eq_some_iff hf).1 hd
    exact hbelow b (List.mem_of_getElem? hb) p d hd

theorem passed (h : s.Loads g cs log r log') :
    ∀ {nodes : List Node}, r = .ok nodes → ∀ c ∈ cs, AllPassed s g c := by
  induction h with
  | done =>
    intro nodes _ c hc
    cases hc
  | stopped | refused | failed | unshown => exact fun heq => nomatch heq
  | made hg hf _ _ _ ih iha =>
    intro nodes heq c hc
    obtain ⟨rest, hrest, -⟩ := except_map_eq_ok_iff.1 heq
    rcases List.mem_cons.1 hc with rfl | hc
    · exact allPassed_of_below ⟨⟨_, hg⟩, _, hf⟩ hf (ih rfl)
    · exact iha hrest c hc

/-- A tree has a node at each place of the data and no others, with the span of the entry, and
under the same bound. -/
def Mirrors (s : Source) (c : Place) (t : Node) : Prop :=
  ∀ p, Option.Rel
    (fun d n => n.span = s.spanOf d.entry ∧ d.bound = t.spanAbove c.bound p)
    (s.placeAt c p) (t.follow? p)

theorem mirrors_of_below {c : Place} {f : Fields} (hf : s.fields c.bound c.entry = .ok f)
    {t : Node} (hspan : t.span = f.span)
    (hbelow : List.Forall₂ (Mirrors s) (c.below f) t.children) : Mirrors s c t := by
  intro p
  cases p with
  | nil =>
    rw [placeAt_nil]
    exact .some ⟨hspan.trans (spanOf_of_fields hf).symm, rfl⟩
  | cons i p =>
    rw [placeAt_cons hf, Node.follow?_cons]
    have hi := rel_getElem?_of_forall₂ hbelow i
    generalize hb : (c.below f)[i]? = b at hi
    generalize hn : t.children[i]? = n at hi
    cases hi with
    | none => exact .none
    | some hmirrors =>
      rename_i b n
      rw [getElem?_below, Option.map_eq_some_iff] at hb
      obtain ⟨v, -, rfl⟩ := hb
      rw [Node.spanAbove_cons hn, hspan]
      exact hmirrors p

theorem mirrors (h : s.Loads g cs log r log') :
    ∀ {nodes : List Node}, r = .ok nodes → List.Forall₂ (Mirrors s) cs nodes := by
  induction h with
  | done =>
    rintro _ ⟨⟩
    exact .nil
  | stopped | refused | failed | unshown => exact fun heq => nomatch heq
  | made _ hf _ _ _ ih iha =>
    intro nodes heq
    obtain ⟨rest, hrest, rfl⟩ := except_map_eq_ok_iff.1 heq
    exact .cons (mirrors_of_below hf rfl (ih rfl)) (iha hrest)

/-- The paths to the places of some trees that stand at places of the data. -/
def pathsAt (cs : List Place) (nodes : List Node) : List (List Nat) :=
  (cs.zip nodes).flatMap fun (c, n) => n.paths.map (c.path ++ ·)

theorem pathsAt_placesFrom (path : List Nat) (bound : Option Span) :
    ∀ {vs : List Value} {nodes : List Node} (i : Nat), vs.length = nodes.length →
      pathsAt (placesFrom path bound i vs) nodes
        = (Node.pathsFrom i nodes).map (path ++ ·)
  | [], [], _, _ => rfl
  | v :: vs, n :: nodes, i, h => by
    have ih := pathsAt_placesFrom path bound (i + 1) (Nat.succ.inj h)
    rw [pathsAt] at ih
    rw [pathsAt, placesFrom, List.zip_cons_cons, List.flatMap_cons, ih, Node.pathsFrom,
      List.map_append, List.map_map]
    simp [Function.comp_def]

theorem paths (h : s.Loads g cs log r log') :
    ∀ {nodes : List Node}, r = .ok nodes →
      log'.reverse.map (·.path) = log.reverse.map (·.path) ++ pathsAt cs nodes := by
  induction h with
  | done =>
    rintro _ ⟨⟩
    simp [pathsAt]
  | stopped | refused | failed | unshown => exact fun heq => nomatch heq
  | @made c cs log log₁ log₂ f children data r hg hf hbelow hdata _ ih iha =>
    intro nodes heq
    obtain ⟨rest, hrest, rfl⟩ := except_map_eq_ok_iff.1 heq
    have hlength : f.children.length = children.length := by
      rw [← (hbelow.mirrors rfl).length_eq, Place.below, length_placesFrom]
    rw [iha hrest, ih rfl, Place.below, pathsAt_placesFrom _ _ 0 hlength]
    simp [pathsAt, Node.paths_eq]

theorem paths_eq {root : Value} {t : Node} (h : s.Loads g [.root root] [] (.ok [t]) log) :
    log.reverse.map (·.path) = t.paths := by
  have hpaths := h.paths rfl
  simpa [pathsAt, Place.root] using hpaths

theorem length_eq (h : s.Loads g cs log r log') :
    ∀ {nodes : List Node}, r = .ok nodes → log'.length = log.length + Node.sizes nodes := by
  induction h with
  | done =>
    rintro _ ⟨⟩
    rfl
  | stopped | refused | failed | unshown => exact fun heq => nomatch heq
  | made _ _ _ _ _ ih iha =>
    intro nodes heq
    obtain ⟨rest, hrest, rfl⟩ := except_map_eq_ok_iff.1 heq
    rw [iha hrest, ih rfl, Node.sizes, Node.size_eq, List.length_cons]
    dsimp only
    omega

end Success

section Failure

/-- What can stop loading at a place. -/
inductive Stops (s : Source) (g : Guard) (c : Place) : LoadError → Prop
  | guard {count : Nat} {e : LoadError} (guard : g count c = some e) : Stops s g c e
  | fault {point : Option PointName} {fault : EntryFault}
      (fields : s.fields c.bound c.entry = .error (point, fault)) :
      Stops s g c (.ofEntryFault ⟨c.path, point⟩ fault)
  | unshown {f : Fields} (fields : s.fields c.bound c.entry = .ok f) (data : f.data = none) :
      Stops s g c .integerTooLong

/-- At or below a place, one stops loading, and all before it in pre-order have passed. -/
def StopsBelow (s : Source) (g : Guard) (c : Place) (e : LoadError) : Prop :=
  ∃ (p : List Nat) (d : Place), s.placeAt c p = some d ∧ Stops s g d e
    ∧ ∀ q b, q < p → s.placeAt c q = some b → Passed s g b

/-- One of some places stops loading, or one below it, and all before it have passed. -/
def StopsAmong (s : Source) (g : Guard) (cs : List Place) (e : LoadError) : Prop :=
  ∃ (i : Nat) (c : Place), cs[i]? = some c ∧ StopsBelow s g c e
    ∧ ∀ j b, j < i → cs[j]? = some b → AllPassed s g b

theorem stopsAmong_head {c : Place} {cs : List Place} {e : LoadError} (h : StopsBelow s g c e) :
    StopsAmong s g (c :: cs) e :=
  ⟨0, c, rfl, h, fun j _ hj => absurd hj (Nat.not_lt_zero j)⟩

theorem stopsBelow_self {c : Place} {e : LoadError} (h : Stops s g c e) : StopsBelow s g c e :=
  ⟨[], c, placeAt_nil c, h, fun q _ hq => absurd hq (List.not_lt_nil q)⟩

theorem stopsBelow_of_among {c : Place} {f : Fields} {e : LoadError} (hc : Passed s g c)
    (hf : s.fields c.bound c.entry = .ok f) (h : StopsAmong s g (c.below f) e) :
    StopsBelow s g c e := by
  obtain ⟨i, b, hb, ⟨p, d, hd, hstops, hbefore⟩, hpassed⟩ := h
  refine ⟨i :: p, d, (placeAt_cons_eq_some_iff hf).2 ⟨b, hb, hd⟩, hstops, fun q d' hq hd' => ?_⟩
  cases q with
  | nil =>
    rw [placeAt_nil] at hd'
    cases hd'
    exact hc
  | cons j q =>
    obtain ⟨b', hb', hd'⟩ := (placeAt_cons_eq_some_iff hf).1 hd'
    rcases List.cons_lt_cons_iff.1 hq with hji | ⟨rfl, hqp⟩
    · exact hpassed j b' hji hb' q d' hd'
    · cases hb.symm.trans hb'
      exact hbefore q d' hqp hd'

theorem stops (h : s.Loads g cs log r log') :
    ∀ {e : LoadError}, r = .error e → StopsAmong s g cs e := by
  induction h with
  | done => exact fun heq => nomatch heq
  | stopped hg =>
    rintro _ ⟨⟩
    exact stopsAmong_head (stopsBelow_self (.guard hg))
  | refused _ hf =>
    rintro _ ⟨⟩
    exact stopsAmong_head (stopsBelow_self (.fault hf))
  | failed hg hf _ ih =>
    rintro _ ⟨⟩
    exact stopsAmong_head (stopsBelow_of_among ⟨⟨_, hg⟩, _, hf⟩ hf (ih rfl))
  | unshown hg hf _ hdata ih =>
    rintro _ ⟨⟩
    exact stopsAmong_head (stopsBelow_self (.unshown hf hdata))
  | @made c cs log log₁ log₂ f children data r hg hf hbelow _ _ _ iha =>
    intro e heq
    have hr : r = .error e := by
      rcases r with e' | nodes
      · exact heq
      · cases heq
    obtain ⟨i, d, hd, hstops, hbefore⟩ := iha hr
    refine ⟨i + 1, d, hd, hstops, fun j b hj hb => ?_⟩
    cases j with
    | zero =>
      cases hb
      exact allPassed_of_below ⟨⟨_, hg⟩, _, hf⟩ hf (hbelow.passed rfl)
    | succ j => exact hbefore j b (by omega) hb

theorem stops_root {root : Value} {e : LoadError} (h : s.Loads g [.root root] [] (.error e) log) :
    StopsBelow s g (.root root) e := by
  obtain ⟨i, c, hc, hstops, -⟩ := h.stops rfl
  cases i with
  | zero =>
    cases hc
    exact hstops
  | succ i => cases hc

end Failure

end Loads

section Program

theorem guard_eq_none_iff {l : Limits} {count : Nat} {c : Place} :
    l.guard count c = none ↔ count ≤ l.nodeCount ∧ c.path.length ≤ l.treeDepth := by
  rw [Limits.guard]
  split_ifs <;> simp <;> omega

/-- What the guard says is that of a limit, unless the limit is too long to be written. -/
theorem guard_eq_some {l : Limits} {count : Nat} {c : Place} {e : LoadError}
    (h : l.guard count c = some e) :
    (e = .tooManyNodes l.nodeCount ∨ e = .tooDeep l.treeDepth)
      ∨ e = .integerTooLong ∧ ¬ l.Writable := by
  rw [Limits.guard] at h
  split_ifs at h
  · obtain rfl := Option.some.inj h
    have hshown : l.Writable → ∀ n ∈ [l.nodeCount], isWritable n := fun hl =>
      List.forall_mem_singleton.2 hl.nodeCount
    exact (showing_eq_or hshown _ _).imp .inl id
  · obtain rfl := Option.some.inj h
    have hshown : l.Writable → ∀ n ∈ [l.treeDepth], isWritable n := fun hl =>
      List.forall_mem_singleton.2 hl.treeDepth
    exact (showing_eq_or hshown _ _).imp .inr id

theorem kind_of_limit {l : Limits} {e : LoadError}
    (h : e = .tooManyNodes l.nodeCount ∨ e = .tooDeep l.treeDepth) : e.kind = "TreeSafetyError" := by
  rcases h with rfl | rfl
  · rfl
  · rfl

/-- Loading one entry comes to a result, whatever is to be loaded after it. -/
def ComesTo (s : Source) (g : Guard) (c : Place) (log : List Place) (r : Except LoadError Node)
    (log' : List Place) : Prop :=
  match r with
  | .error e => ∀ cs, s.Loads g (c :: cs) log (.error e) log'
  | .ok t => ∀ cs r log₂, s.Loads g cs log' r log₂ → s.Loads g (c :: cs) log (r.map (t :: ·)) log₂

theorem loads_of_eachFrom {f : Nat → Value → Loading Node} {path : List Nat} {bound : Option Span}
    (hf : ∀ i v log r m, (f i v).outcome (List.length log) = (r, m) →
      ∃ log', log'.length = m ∧ ComesTo s g ⟨path ++ [i], bound, v⟩ log r log') :
    ∀ {vs : List Value} {i m : Nat} {log : List Place} {r : Except LoadError (List Node)},
      (eachFrom f i vs).outcome log.length = (r, m) →
      ∃ log', log'.length = m ∧ s.Loads g (placesFrom path bound i vs) log r log'
  | [], i, m, log, r, h => by
    rw [eachFrom_nil] at h
    cases h
    exact ⟨log, rfl, .done⟩
  | v :: vs, i, m, log, r, h => by
    rw [eachFrom, outcome_bind] at h
    rcases hv : (f i v).outcome log.length with ⟨e | node, k⟩
    · rw [hv] at h
      cases h
      obtain ⟨log', hlength, hcomes⟩ := hf i v log _ _ hv
      exact ⟨log', hlength, hcomes _⟩
    · obtain ⟨log₁, hlength₁, hcomes⟩ := hf i v log _ k hv
      subst hlength₁
      rw [hv] at h
      simp only [outcome_bind] at h
      rcases hvs : (eachFrom f (i + 1) vs).outcome log₁.length with ⟨r', l⟩
      obtain ⟨log₂, hlength, hafter⟩ := loads_of_eachFrom hf hvs
      have hr : r = r'.map (node :: ·) ∧ m = l := by
        rw [hvs] at h
        rcases r' with e | nodes <;> cases h <;> exact ⟨rfl, rfl⟩
      obtain ⟨rfl, rfl⟩ := hr
      exact ⟨log₂, hlength, hcomes _ _ _ hafter⟩

/-- By induction on the levels that are left: the program follows the rules under the limits, and
the count it keeps is the number of places that it has come to. -/
theorem comesTo_of_build {levels : Nat} :
    ∀ {way : List Nat} {bound : Option Span} {entry : Value} {log : List Place}
      {r : Except LoadError Node} {m : Nat},
      levels = (s.limits.treeDepth + 1 - way.length).toNat →
      (s.build levels way bound entry).outcome log.length = (r, m) →
      ∃ log', log'.length = m
        ∧ ComesTo s s.limits.guard ⟨way.reverse, bound, entry⟩ log r log' := by
  induction levels with
  | zero =>
    intro way bound entry log r m hlevels h
    have hdeep : s.limits.treeDepth < way.length := by omega
    rw [build, outcome_bind, enter_outcome] at h
    refine ⟨⟨way.reverse, bound, entry⟩ :: log, ?_⟩
    by_cases hfull : s.limits.nodeCount < log.length + 1
    · rw [if_pos hfull] at h
      cases h
      exact ⟨rfl, fun cs => .stopped (by simp [Limits.guard, hfull])⟩
    · rw [if_neg hfull] at h
      cases h
      exact ⟨rfl, fun cs => .stopped (by simp [Limits.guard, hfull, hdeep])⟩
  | succ levels ih =>
    intro way bound entry log r m hlevels h
    rw [build, outcome_bind, enter_outcome] at h
    by_cases hfull : s.limits.nodeCount < log.length + 1
    · rw [if_pos hfull] at h
      cases h
      exact ⟨_ :: log, rfl, fun cs => .stopped (by simp [Limits.guard, hfull])⟩
    have hguard : s.limits.guard (log.length + 1) ⟨way.reverse, bound, entry⟩ = none :=
      guard_eq_none_iff.2 ⟨by push_cast; omega, by rw [List.length_reverse]; omega⟩
    rw [if_neg hfull] at h
    dsimp only at h
    rcases hf : s.fields bound entry with ⟨point, fault⟩ | f
    · rw [hf] at h
      cases h
      exact ⟨_ :: log, rfl, fun cs => .refused hguard hf⟩
    rw [hf] at h
    dsimp only at h
    rw [outcome_bind] at h
    rcases hchildren : (eachFrom (fun i child => s.build levels (i :: way) (f.span.or bound) child)
      0 f.children).outcome (log.length + 1) with ⟨rs, k⟩
    have hlevel : levels = (s.limits.treeDepth + 1 - (way.length + 1 : Nat)).toNat := by omega
    have hall : ∀ i v log r m,
        (s.build levels (i :: way) (f.span.or bound) v).outcome (List.length log) = (r, m) →
        ∃ log', log'.length = m
          ∧ ComesTo s s.limits.guard ⟨way.reverse ++ [i], f.span.or bound, v⟩ log r log' := by
      intro i v log r m h
      have hcomes := @ih (i :: way) _ _ _ _ _ hlevel h
      rwa [List.reverse_cons] at hcomes
    have hlist : (eachFrom (fun i child => s.build levels (i :: way) (f.span.or bound) child) 0
        f.children).outcome (⟨way.reverse, bound, entry⟩ :: log : List Place).length = (rs, k) :=
      hchildren
    obtain ⟨log', hlength, hbelow⟩ := loads_of_eachFrom hall hlist
    rw [hchildren] at h
    subst hlength
    rcases rs with e | children
    · cases h
      exact ⟨log', rfl, fun cs => .failed hguard hf hbelow⟩
    · dsimp only at h
      rcases hdata : f.data with _ | data
      · rw [hdata] at h
        cases h
        exact ⟨log', rfl, fun cs => .unshown hguard hf hbelow hdata⟩
      · rw [hdata] at h
        cases h
        exact ⟨log', rfl, fun cs r log₂ hafter => .made hguard hf hbelow hdata hafter⟩

/-- Loading a tree from its root comes to one place after the other by the rules, as many as it has
counted when it ends. -/
theorem exists_loads (s : Source) (root : Value) :
    ∃ log, s.Loads s.limits.guard [.root root] [] ((s.load root).map ([·])) log
      ∧ log.length
        = ((s.build (s.limits.treeDepth + 1).toNat [] none root).outcome 0).2 := by
  rcases hbuild : (s.build (s.limits.treeDepth + 1).toNat [] none root).outcome 0 with ⟨r, m⟩
  have hload : s.load root = r := congrArg Prod.fst hbuild
  have hfirst : (s.build (s.limits.treeDepth + 1).toNat [] none root).outcome
      ([] : List Place).length = (r, m) := hbuild
  obtain ⟨log, hlength, hcomes⟩ := comesTo_of_build (by simp) hfirst
  refine ⟨log, ?_, hlength⟩
  rw [hload]
  rcases r with e | t
  · exact hcomes []
  · exact hcomes [] _ log .done

theorem Loads.unique_root {root : Value} {r r' : Except LoadError Node} {log log' : List Place}
    (h : s.Loads g [.root root] [] (r.map ([·])) log)
    (h' : s.Loads g [.root root] [] (r'.map ([·])) log') : r = r' ∧ log = log' := by
  obtain ⟨hr, rfl⟩ := h'.unique h
  refine ⟨?_, rfl⟩
  rcases r with e | t <;> rcases r' with e' | t' <;> cases hr <;> rfl

/-- Loading a tree is what the rules say under the limits. -/
theorem load_eq_iff {root : Value} {r : Except LoadError Node} :
    s.load root = r
      ↔ ∃ log, s.Loads s.limits.guard [.root root] [] (r.map ([·])) log := by
  obtain ⟨log, hloads, -⟩ := s.exists_loads root
  constructor
  · rintro rfl
    exact ⟨log, hloads⟩
  · rintro ⟨log', hloads'⟩
    exact (hloads.unique_root hloads').1

end Program

end Source

end MarkdownLint
