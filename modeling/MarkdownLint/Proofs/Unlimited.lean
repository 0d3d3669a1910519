import MarkdownLint.Proofs.LoadCourse

/-!
# Loading without limits

A guard only stops a load, and has no part in what it comes to otherwise: where one guard lets all
places pass, loading comes to the same under it as under none (`Loads.of_unlimited`).  Data without
a cycle is of bounded depth, so loading it without limits comes to a result
(`exists_loads_of_not_cyclic`).  This is what it comes to under all limits that are large enough,
and under the others it is the same or stopped by the limits (`load_limits`).  What stops it says so,
unless the limit is too long to be written (`load_limits_far`).
-/

namespace MarkdownLint

namespace Source

variable {s : Source} {g : Guard}

section Guards

/-- A guard lets each of some places pass, which were come to one after the other, the first one
last. -/
def Lets (g : Guard) : List Place → Prop
  | [] => True
  | c :: older => g (older.length + 1) c = none ∧ Lets g older

theorem Lets.of_suffix {older log : List Place} (h : older <:+ log) (hlog : Lets g log) :
    Lets g older := by
  obtain ⟨newer, rfl⟩ := h
  induction newer with
  | nil => exact hlog
  | cons c newer ih => exact ih hlog.2

theorem lets_limits_iff {l : Limits} {c : Place} {older : List Place} :
    Lets l.guard (c :: older) ↔ ((c :: older).length : Int) ≤ l.nodeCount
      ∧ ∀ d ∈ c :: older, (d.path.length : Int) ≤ l.treeDepth := by
  induction older generalizing c with
  | nil => simp [Lets, guard_eq_none_iff]
  | cons b older ih =>
    rw [Lets, ih, guard_eq_none_iff, List.forall_mem_cons (a := c), List.length_cons (a := c)]
    constructor
    · rintro ⟨⟨hcount, hdepth⟩, -, hbelow⟩
      exact ⟨hcount, hdepth, hbelow⟩
    · rintro ⟨hcount, hdepth, hbelow⟩
      exact ⟨⟨hcount, hdepth⟩, by omega, hbelow⟩

variable {cs log log' : List Place} {r : Except LoadError (List Node)}

namespace Loads

theorem lets (h : s.Loads g cs log r log') :
    ∀ {nodes : List Node}, r = .ok nodes → Lets g log → Lets g log' := by
  induction h with
  | done => exact fun _ hlog => hlog
  | stopped | refused | failed | unshown => exact fun heq => nomatch heq
  | made hg _ _ _ _ ih iha =>
    intro nodes heq hlog
    obtain ⟨rest, hrest, -⟩ := except_map_eq_ok_iff.1 heq
    exact iha hrest (ih rfl ⟨hg, hlog⟩)

theorem unlimited_of_ok (h : s.Loads g cs log r log') :
    ∀ {nodes : List Node}, r = .ok nodes → s.Loads unlimited cs log r log' := by
  induction h with
  | done => exact fun _ => .done
  | stopped | refused | failed | unshown => exact fun heq => nomatch heq
  | made _ hf _ hdata _ ih iha =>
    intro nodes heq
    obtain ⟨rest, hrest, -⟩ := except_map_eq_ok_iff.1 heq
    exact .made rfl hf (ih rfl) hdata (iha hrest)

/-- A guard leaves loading as it is without one, or stops it at a place that it comes to. -/
theorem unlimited_or_stopped (g : Guard) (h : s.Loads unlimited cs log r log') :
    s.Loads g cs log r log'
    ∨ ∃ c older e, c :: older <:+ log' ∧ g (older.length + 1) c = some e
      ∧ s.Loads g cs log (.error e) (c :: older) := by
  -- Each rule asks the guard once, at the place it comes to; what stops loading below or after that
  -- place stops it there.
  induction h with
  | done => exact .inl .done
  | @stopped c cs log e hg => cases hg
  | @refused c cs log point fault _ hf =>
    rcases hg : g (log.length + 1) c with _ | e
    · exact .inl (.refused hg hf)
    · exact .inr ⟨c, log, e, List.suffix_rfl, hg, .stopped hg⟩
  | @failed c cs log log' f e _ hf hbelow ih =>
    rcases hg : g (log.length + 1) c with _ | e
    · rcases ih with ih | ⟨b, older, e', hsuffix, hb, ih⟩
      · exact .inl (.failed hg hf ih)
      · exact .inr ⟨b, older, e', hsuffix, hb, .failed hg hf ih⟩
    · exact .inr ⟨c, log, e, hbelow.suffix, hg, .stopped hg⟩
  | @unshown c cs log log' f children _ hf hbelow hdata ih =>
    rcases hg : g (log.length + 1) c with _ | e
    · rcases ih with ih | ⟨b, older, e', hsuffix, hb, ih⟩
      · exact .inl (.unshown hg hf ih hdata)
      · exact .inr ⟨b, older, e', hsuffix, hb, .failed hg hf ih⟩
    · exact .inr ⟨c, log, e, hbelow.suffix, hg, .stopped hg⟩
  | @made c cs log log₁ log₂ f children data r _ hf hbelow hdata hafter ih iha =>
    rcases hg : g (log.length + 1) c with _ | e
    · rcases ih with ih | ⟨b, older, e', hsuffix, hb, ih⟩
      · rcases iha with iha | ⟨b, older, e', hsuffix, hb, iha⟩
        · exact .inl (.made hg hf ih hdata iha)
        · exact .inr ⟨b, older, e', hsuffix, hb, .made hg hf ih hdata iha⟩
      · exact .inr ⟨b, older, e', hsuffix.trans hafter.suffix, hb, .failed hg hf ih⟩
    · exact .inr ⟨c, log, e, hbelow.suffix.trans hafter.suffix, hg, .stopped hg⟩

theorem of_unlimited (h : s.Loads unlimited cs log r log') (hlets : Lets g log') :
    s.Loads g cs log r log' := by
  rcases h.unlimited_or_stopped g with h | ⟨c, older, e, hsuffix, hg, -⟩
  · exact h
  · rw [(hlets.of_suffix hsuffix).1] at hg
    cases hg

end Loads

end Guards

section Acyclic

theorem exists_loads_of_forall {cs : List Place}
    (h : ∀ c ∈ cs, ∀ log, ∃ r log', ComesTo s g c log r log') (log : List Place) :
    ∃ r log', s.Loads g cs log r log' := by
  induction cs generalizing log with
  | nil => exact ⟨_, _, .done⟩
  | cons c cs ih =>
    obtain ⟨r, log₁, hc⟩ := h c List.mem_cons_self log
    rcases r with e | t
    · exact ⟨_, _, hc cs⟩
    · obtain ⟨r, log₂, hcs⟩ := ih (fun b hb => h b (List.mem_cons_of_mem _ hb)) log₁
      exact ⟨_, _, hc cs r log₂ hcs⟩

/-- By induction on the depth of what is below: loading comes to a result. -/
theorem exists_comesTo (g : Guard) {n : Nat} :
    ∀ {c : Place}, (∀ p v, s.entryAt c.entry p = some v → p.length < n) →
      ∀ log, ∃ r log', ComesTo s g c log r log' := by
  induction n with
  | zero => exact fun h => absurd (h [] _ rfl) (Nat.not_lt_zero _)
  | succ n ih =>
    intro c h log
    rcases hg : g (log.length + 1) c with _ | e
    · rcases hf : s.fields c.bound c.entry with ⟨point, fault⟩ | f
      · exact ⟨.error _, _, fun cs => .refused hg hf⟩
      · have hbelow : ∀ b ∈ c.below f, ∀ log, ∃ r log', ComesTo s g b log r log' := by
          intro b hb
          refine ih fun p v hp => ?_
          obtain ⟨i, hi⟩ := List.getElem?_of_mem hb
          rw [getElem?_below, Option.map_eq_some_iff] at hi
          obtain ⟨w, hw, rfl⟩ := hi
          have hlength := h (i :: p) v
            (entryAt_cons_eq_some_iff.2 ⟨w, items_of_fields hf ▸ hw, hp⟩)
          rw [List.length_cons] at hlength
          omega
        obtain ⟨r, log', hr⟩ := exists_loads_of_forall hbelow (c :: log)
        rcases r with e | children
        · exact ⟨.error e, log', fun cs => .failed hg hf hr⟩
        · rcases hdata : f.data with _ | data
          · exact ⟨.error _, log', fun cs => .unshown hg hf hr hdata⟩
          · exact ⟨.ok _, log', fun cs r log₂ hafter => .made hg hf hr hdata hafter⟩
    · exact ⟨.error e, _, fun cs => .stopped hg⟩

theorem exists_loads_of_not_cyclic {root : Value} (h : ¬ s.Cyclic root) (g : Guard) :
    ∃ (r : Except LoadError Node) (log : List Place),
      s.Loads g [.root root] [] (r.map ([·])) log := by
  obtain ⟨r, log, hr⟩ := exists_comesTo g (c := .root root)
    (fun p v hp => length_lt_of_not_cyclic h hp) []
  rcases r with e | t
  · exact ⟨.error e, log, hr []⟩
  · exact ⟨.ok t, log, hr [] _ _ .done⟩

end Acyclic

section Limits

/-- The rules take nothing but the checks of the entries from a source. -/
theorem Loads.of_fields_eq {s' : Source} {cs log log' : List Place}
    {r : Except LoadError (List Node)} (hs : s.fields = s'.fields) (h : s.Loads g cs log r log') :
    s'.Loads g cs log r log' := by
  induction h with
  | done => exact .done
  | stopped hg => exact .stopped hg
  | refused hg hf => exact .refused hg (hs ▸ hf)
  | failed hg hf _ ih => exact .failed hg (hs ▸ hf) ih
  | unshown hg hf _ hdata ih => exact .unshown hg (hs ▸ hf) ih hdata
  | made hg hf _ hdata _ ih iha => exact .made hg (hs ▸ hf) ih hdata iha

theorem load_eq_iff_of_limits {limits : Limits} {collections : Array Value}
    {location : Option Location} {root : Value} {r : Except LoadError Node} :
    load { limits, collections, location } root = r
      ↔ ∃ log, Loads { collections, location } limits.guard [.root root] [] (r.map ([·])) log := by
  rw [load_eq_iff]
  have hfields : fields { limits, collections, location } = fields { collections, location } := rfl
  exact ⟨fun ⟨log, h⟩ => ⟨log, h.of_fields_eq hfields⟩,
    fun ⟨log, h⟩ => ⟨log, h.of_fields_eq hfields.symm⟩⟩

theorem lets_limits_iff_of_ok {root : Value} {t : Node} {log : List Place}
    (h : s.Loads g [.root root] [] (.ok [t]) log) (l : Limits) :
    Lets l.guard log ↔ t.walk.length ≤ l.nodeCount
      ∧ ∀ p n, t.follow? p = some n → p.length ≤ l.treeDepth := by
  have hcount : t.walk.length = log.length := by
    rw [h.length_eq rfl, Node.length_walk]
    simp [Node.sizes]
  have hdepth : (∀ d ∈ log, (d.path.length : Int) ≤ l.treeDepth)
      ↔ ∀ p n, t.follow? p = some n → p.length ≤ l.treeDepth := by
    have hpaths := h.paths_eq
    constructor
    · intro hlog p n hp
      have hmem := t.mem_paths.2 ⟨n, hp⟩
      rw [← hpaths] at hmem
      obtain ⟨d, hd, rfl⟩ := List.mem_map.1 hmem
      exact hlog d (List.mem_reverse.1 hd)
    · intro ht d hd
      have hmem := List.mem_map_of_mem (f := Place.path) (List.mem_reverse.2 hd)
      rw [hpaths] at hmem
      obtain ⟨n, hn⟩ := t.mem_paths.1 hmem
      exact ht _ n hn
  rw [hcount, ← hdepth]
  cases log with
  | nil =>
    have hpaths := h.paths_eq
    rw [t.paths_eq] at hpaths
    cases hpaths
  | cons c older => exact lets_limits_iff

section Comparison

variable {collections : Array Value} {location : Option Location} {root : Value}
  {r : Except LoadError Node} {log : List Place}
  (hr : Loads { collections, location } unlimited [.root root] [] (r.map ([·])) log)

include hr

/-- Under limits, loading gives a tree just if it does without them and the tree keeps within
them. -/
theorem load_eq_ok_iff_of_unlimited (limits : Limits) (t : Node) :
    load { limits, collections, location } root = .ok t
      ↔ r = .ok t ∧ t.walk.length ≤ limits.nodeCount
        ∧ ∀ p n, t.follow? p = some n → p.length ≤ limits.treeDepth := by
  constructor
  · intro h
    obtain ⟨log', hload⟩ := load_eq_iff_of_limits.1 h
    have hlimits := (lets_limits_iff_of_ok hload limits).1 (hload.lets rfl trivial)
    exact ⟨(hr.unique_root (hload.unlimited_of_ok rfl)).1, hlimits⟩
  · rintro ⟨rfl, hlimits⟩
    have hlets := (lets_limits_iff_of_ok hr limits).2 hlimits
    exact load_eq_iff_of_limits.2 ⟨log, hr.of_unlimited hlets⟩

/-- Where loading fails without limits, it fails in the same way or is stopped under them. -/
theorem load_eq_or_stopped_of_unlimited (limits : Limits) :
    load { limits, collections, location } root = r
    ∨ (∃ e, load { limits, collections, location } root = .error e
      ∧ (e = .tooManyNodes limits.nodeCount ∨ e = .tooDeep limits.treeDepth))
    ∨ (load { limits, collections, location } root = .error .integerTooLong
      ∧ ¬ limits.Writable) := by
  rcases hr.unlimited_or_stopped limits.guard with h | ⟨c, older, e, -, hguard, h⟩
  · exact .inl (load_eq_iff_of_limits.2 ⟨log, h⟩)
  · have hstopped : load { limits, collections, location } root = .error e :=
      load_eq_iff_of_limits.2 ⟨_, h⟩
    rcases guard_eq_some hguard with he | ⟨rfl, hlong⟩
    · exact .inr (.inl ⟨e, hstopped, he⟩)
    · exact .inr (.inr ⟨hstopped, hlong⟩)

/-- Limits that are large enough have no part in what loading data without a cycle comes to. -/
theorem load_eq_of_unlimited (h : ¬ Cyclic { collections, location } root) (limits : Limits)
    (hcount : log.length ≤ limits.nodeCount)
    (hdepth : (allParts { collections, location } root).length ≤ limits.treeDepth) :
    load { limits, collections, location } root = r := by
  refine load_eq_iff_of_limits.2 ⟨log, hr.of_unlimited ?_⟩
  cases log with
  | nil => trivial
  | cons c older =>
    refine lets_limits_iff.2 ⟨hcount, fun d hd => ?_⟩
    obtain ⟨v, hv, -⟩ := placeAt_root_eq_some_iff.1 (hr.placeAt_path hd)
    have hlength := length_lt_of_not_cyclic h hv
    omega

end Comparison

/-- Data without a cycle loads to a result without limits, which it also comes to under all limits
that are large enough.  Limits give the same tree if this is a tree with no more nodes and no more
levels below the root than they allow, and no tree otherwise; where the result is an error they give
the same error or their own, if they can be written.  So a tree that loads under limits loads the
same under larger ones. -/
theorem load_limits {collections : Array Value} {text : Option String} {root : Value}
    (h : ¬ Cyclic { collections, location := text.map .ofText } root) :
    let s : Source := { collections, location := text.map .ofText }
    let under := fun limits : Limits => load { s with limits } root
    ∃ r : Except LoadError Node,
      (∀ r' : Except LoadError Node,
        (∃ log, s.Loads unlimited [.root root] [] (r'.map ([·])) log) ↔ r' = r)
      ∧ (∃ nodeCount treeDepth : Int, ∀ limits : Limits, nodeCount ≤ limits.nodeCount →
        treeDepth ≤ limits.treeDepth → under limits = r)
      ∧ (∀ limits t, under limits = .ok t ↔ r = .ok t ∧ t.walk.length ≤ limits.nodeCount
        ∧ ∀ p n, t.follow? p = some n → p.length ≤ limits.treeDepth)
      ∧ (∀ limits e, r = .error e → under limits = .error e
        ∨ (∃ e', under limits = .error e' ∧ e'.kind = "TreeSafetyError"
          ∧ (e' = .tooManyNodes limits.nodeCount ∨ e' = .tooDeep limits.treeDepth))
        ∨ under limits = .error .integerTooLong ∧ ¬ limits.Writable)
      ∧ ∀ (limits limits' : Limits) (t : Node), limits.nodeCount ≤ limits'.nodeCount →
        limits.treeDepth ≤ limits'.treeDepth → under limits = .ok t → under limits' = .ok t := by
  intro s under
  obtain ⟨r, log, hr⟩ := exists_loads_of_not_cyclic h unlimited
  have hok := load_eq_ok_iff_of_unlimited hr
  refine ⟨r, fun r' => ⟨?_, ?_⟩, ?_, hok, ?_, ?_⟩
  · rintro ⟨log', hr'⟩
    exact (hr'.unique_root hr).1
  · rintro rfl
    exact ⟨log, hr⟩
  · exact ⟨log.length, (s.allParts root).length, load_eq_of_unlimited hr h⟩
  · rintro limits e rfl
    rcases load_eq_or_stopped_of_unlimited hr limits with h | ⟨e', h, hlimit⟩ | hlong
    · exact .inl h
    · exact .inr (.inl ⟨e', h, kind_of_limit hlimit, hlimit⟩)
    · exact .inr (.inr hlong)
  · intro limits limits' t hcount hdepth ht
    obtain ⟨hrt, hsize, hlevels⟩ := (hok limits t).1 ht
    exact (hok limits' t).2 ⟨hrt, hsize.trans hcount, fun p n hp => (hlevels p n hp).trans hdepth⟩

def plainText : Value :=
  .map [(.text "type", .text "text")]

/-- A root with the same text twice. -/
def twinTexts : Value :=
  .map [(.text "type", .text "root"), (.text "children", .list [.ref 0, .ref 0])]

theorem not_cyclic_twinTexts : ¬ Cyclic { collections := #[plainText] } twinTexts := by
  have hend : ∀ (q : List Nat) (w : Value),
      entryAt { collections := #[plainText] } (.ref 0) q = some w → q = [] ∧ w = .ref 0 := by
    rintro (_ | ⟨i, q⟩) w h
    · exact ⟨rfl, (Option.some.inj h).symm⟩
    · obtain ⟨c, hc, -⟩ := entryAt_cons_eq_some_iff.1 h
      cases List.mem_of_getElem? hc
  have hbelow : ∀ (i : Nat) (q : List Nat) (w : Value),
      entryAt { collections := #[plainText] } twinTexts (i :: q) = some w → w = .ref 0 := by
    intro i q w h
    obtain ⟨c, hc, h⟩ := entryAt_cons_eq_some_iff.1 h
    have hc : c ∈ [Value.ref 0, .ref 0] := List.mem_of_getElem? hc
    obtain rfl : c = .ref 0 := by simpa using hc
    exact (hend q w h).2
  rintro ⟨_ | ⟨i, p⟩, q, v, hq, hp, hv⟩
  · obtain rfl : twinTexts = v := Option.some.inj hp
    obtain ⟨j, q, rfl⟩ := List.exists_cons_of_ne_nil hq
    cases hbelow j q _ hv
  · obtain rfl := hbelow i p v hp
    exact hq (hend q _ hv).1

/-- Three nodes, two of them one level below the root. -/
theorem load_limits_twinTexts :
    ¬ Cyclic { collections := #[plainText] } twinTexts
    ∧ ∃ t, ∀ limits : Limits, load { limits, collections := #[plainText] } twinTexts = .ok t
      ↔ 3 ≤ limits.nodeCount ∧ 1 ≤ limits.treeDepth := by
  let t : Node := ⟨0, "root", [⟨1, "text", [], none, none, []⟩, ⟨2, "text", [], none, none, []⟩],
    none, none, []⟩
  have hcyclic : ¬ Cyclic { collections := #[plainText], location := Option.map .ofText none }
      twinTexts := not_cyclic_twinTexts
  obtain ⟨r, -, -, hok, -⟩ := load_limits hcyclic
  have hr : r = .ok t := ((hok {} t).1 rfl).1
  have hpaths : t.paths = [[], [0], [1]] := rfl
  have hdepth : ∀ d : Int, (∀ p n, t.follow? p = some n → (p.length : Int) ≤ d) ↔ 1 ≤ d := by
    intro d
    constructor
    · exact fun h => h [0] _ rfl
    · intro hd p n hp
      have hmem := t.mem_paths.2 ⟨n, hp⟩
      rw [hpaths] at hmem
      have hlength : p.length ≤ 1 := by
        simp only [List.mem_cons, List.not_mem_nil, or_false] at hmem
        rcases hmem with rfl | rfl | rfl <;> decide
      omega
  refine ⟨not_cyclic_twinTexts, t, fun limits => ?_⟩
  have hlimits := hok limits t
  rw [hdepth, Node.length_walk] at hlimits
  exact hlimits.trans (and_iff_right hr)

/-- No mapping, which is malformed without limits.  Under a limit on the nodes that is far below
zero, loading ends with the error of writing the limit. -/
theorem load_limits_far :
    let n : Int := -(10 ^ mostDigits : Nat)
    ¬ Cyclic {} .null
    ∧ (∃ e log, Loads {} unlimited [.root .null] [] (.error e) log ∧ e.kind = "MalformedTreeError")
    ∧ ∃ e, load { limits := { nodeCount := n } } .null = .error e ∧ e.kind = "ValueError" := by
  intro n
  have hn : ¬ isWritable n := by
    rw [isWritable, Int.natAbs_neg]
    exact not_isWritable_tenPow
  have hneg : n < 1 := by
    have hpos : 0 ≤ ((10 ^ mostDigits : Nat) : Int) := Int.natCast_nonneg _
    omega
  clear_value n
  have hend : ∀ (q : List Nat) (w : Value), entryAt {} .null q = some w → q = [] ∧ w = .null := by
    rintro (_ | ⟨i, q⟩) w h
    · exact ⟨rfl, (Option.some.inj h).symm⟩
    · obtain ⟨c, hc, -⟩ := entryAt_cons_eq_some_iff.1 h
      cases hc
  refine ⟨?_, ⟨_, _, .refused rfl rfl, rfl⟩, .integerTooLong,
    load_eq_iff_of_limits.2 ⟨_, .stopped ?_⟩, rfl⟩
  · rintro ⟨p, q, v, hq, hp, hv⟩
    obtain ⟨-, rfl⟩ := hend p v hp
    exact hq (hend q _ hv).1
  · rw [Limits.guard, if_pos (by simpa using hneg), Limits.nodesExceeded, showing_singleton,
      if_neg hn]

end Limits

end Source

end MarkdownLint
