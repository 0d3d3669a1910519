import MarkdownLint.Proofs.FirstFault

/-!
# Loading data with cycles

Whatever the data, loading comes to an end: it comes to at most one place more than the limit on the
nodes, and to none more than one level below the limit on the depth (`Loads.length_le`,
`Loads.depth_le`).  Along a cycle there are places of any depth, so a load that meets one cannot
succeed: a limit stops it, or a fault that comes before some turn of the cycle (`load_cyclic`).  An
integer that is too long to be written can be in the way of both (`load_cyclic_long_key`).
-/

namespace MarkdownLint

namespace Source

variable {s : Source} {l : Limits} {cs log log' : List Place} {r : Except LoadError (List Node)}

section Bounds

/-- One place more than allowed at most, and not that where loading succeeds. -/
theorem Loads.length_le (h : s.Loads l.guard cs log r log') :
    (log.length : Int) ≤ max l.nodeCount 0 →
      (log'.length : Int) ≤ max l.nodeCount 0 + 1
      ∧ ∀ nodes, r = .ok nodes → (log'.length : Int) ≤ max l.nodeCount 0 := by
  induction h with
  | done => exact fun hlog => ⟨by omega, fun _ _ => hlog⟩
  | stopped _ | refused _ _ =>
    intro hlog
    rw [List.length_cons]
    exact ⟨by omega, fun _ heq => nomatch heq⟩
  | failed hg _ _ ih | unshown hg _ _ _ ih =>
    intro _
    have hcount := (guard_eq_none_iff.1 hg).1
    exact ⟨(ih (by rw [List.length_cons]; omega)).1, fun _ heq => nomatch heq⟩
  | made hg _ _ _ _ ih iha =>
    intro _
    have hcount := (guard_eq_none_iff.1 hg).1
    have hbelow := (ih (by rw [List.length_cons]; omega)).2 _ rfl
    obtain ⟨hle, hok⟩ := iha hbelow
    refine ⟨hle, fun nodes heq => ?_⟩
    obtain ⟨rest, hrest, -⟩ := except_map_eq_ok_iff.1 heq
    exact hok rest hrest

theorem length_of_mem_below {c b : Place} {f : Fields} (hb : b ∈ c.below f) :
    b.path.length = c.path.length + 1 := by
  obtain ⟨i, hi⟩ := List.getElem?_of_mem hb
  rw [getElem?_below, Option.map_eq_some_iff] at hi
  obtain ⟨v, -, rfl⟩ := hi
  simp

theorem Loads.depth_le (h : s.Loads l.guard cs log r log') :
    (∀ c ∈ cs, (c.path.length : Int) ≤ max l.treeDepth 0 + 1) →
    (∀ c ∈ log, (c.path.length : Int) ≤ max l.treeDepth 0 + 1) →
    ∀ c ∈ log', (c.path.length : Int) ≤ max l.treeDepth 0 + 1 := by
  have hchildren : ∀ {c : Place} {f : Fields} {count : Nat}, l.guard count c = none →
      ∀ b ∈ c.below f, (b.path.length : Int) ≤ max l.treeDepth 0 + 1 := by
    intro c f count hg b hb
    have hdepth := (guard_eq_none_iff.1 hg).2
    rw [length_of_mem_below hb]
    omega
  induction h with
  | done => exact fun _ hlog => hlog
  | stopped _ | refused _ _ =>
    exact fun hcs hlog => List.forall_mem_cons.2 ⟨hcs _ List.mem_cons_self, hlog⟩
  | failed hg _ _ ih | unshown hg _ _ _ ih =>
    exact fun hcs hlog => ih (hchildren hg)
      (List.forall_mem_cons.2 ⟨hcs _ List.mem_cons_self, hlog⟩)
  | made hg _ _ _ _ ih iha =>
    intro hcs hlog
    rw [List.forall_mem_cons] at hcs
    exact iha hcs.2 (ih (hchildren hg) (List.forall_mem_cons.2 ⟨hcs.1, hlog⟩))

end Bounds

section Cycles

variable {root v : Value} {p q : List Nat} (hq : q ≠ []) (hp : s.entryAt root p = some v)
  (hv : s.entryAt v q = some v)

theorem le_length_turns (hq : q ≠ []) (k : Nat) :
    k ≤ (p ++ (List.replicate k q).flatten).length := by
  have hpos := List.length_pos_of_ne_nil hq
  rw [List.length_append, List.length_flatten, List.map_replicate, List.sum_replicate_nat]
  have := Nat.le_mul_of_pos_right k hpos
  omega

include hq hp hv

/-- Along a cycle, some place does not pass the limits. -/
theorem exists_turn_not_passed (l : Limits) :
    ∃ k d, s.placeAt (.root root) (p ++ (List.replicate k q).flatten) = some d
      ∧ ¬ Loads.Passed s l.guard d := by
  have hturn :
      s.entryAt root (p ++ (List.replicate (l.treeDepth.toNat + 1) q).flatten) = some v := by
    rw [entryAt_append, hp, Option.bind_some, entryAt_turns hv]
  refine ⟨l.treeDepth.toNat + 1, _, placeAt_root_eq_some_iff.2 ⟨v, hturn, rfl⟩, fun hpassed => ?_⟩
  obtain ⟨count, hg⟩ := hpassed.guard
  have hdepth := (guard_eq_none_iff.1 hg).2
  have hlength := le_length_turns (p := p) hq (l.treeDepth.toNat + 1)
  dsimp only at hdepth
  omega

end Cycles

/-- Loading any data under any limits comes to at most one entry more than the limit on the nodes,
by its own count, and to none more than one level below the limit on the depth.  Data with a cycle
that can be reached gives no tree: loading it is stopped by a limit, or by the first fault, which is
not after every turn of the cycle, or by an integer that is too long to be written. -/
theorem load_cyclic (limits : Limits) (collections : Array Value) (text : Option String)
    (root : Value) :
    let s : Source := { limits, collections, location := text.map .ofText }
    (∃ log, s.Loads limits.guard [.root root] [] ((s.load root).map ([·])) log
      ∧ log.length = ((s.build (limits.treeDepth + 1).toNat [] none root).outcome 0).2
      ∧ log.length ≤ max limits.nodeCount 0 + 1
      ∧ ∀ c ∈ log, c.path.length ≤ max limits.treeDepth 0 + 1)
    ∧ ∀ (p q : List Nat) (v : Value), q ≠ [] → s.entryAt root p = some v →
      s.entryAt v q = some v →
      (∃ e, s.load root = .error e ∧ e.kind = "TreeSafetyError"
        ∧ (e = .tooManyNodes limits.nodeCount ∨ e = .tooDeep limits.treeDepth))
      ∨ (s.load root = .error .integerTooLong ∧ ¬ (limits.Writable ∧ s.Writable root))
      ∨ ∃ (path : EntryPath) (fault : EntryFault) (k : Nat),
        s.load root = .error (.malformed path fault) ∧ s.FirstFault root path fault
        ∧ path.indexes ≤ p ++ (List.replicate k q).flatten := by
  intro s
  obtain ⟨log, hloads, hlength⟩ := s.exists_loads root
  constructor
  · refine ⟨log, hloads, hlength, (hloads.length_le (by simp)).1, hloads.depth_le ?_ (by simp)⟩
    simp only [List.mem_singleton, forall_eq, Place.root, List.length_nil]
    omega
  · intro p q v hq hp hv
    obtain ⟨k, turn, hturn, hnot⟩ := exists_turn_not_passed hq hp hv limits
    rcases hload : s.load root with e | t
    · rw [hload] at hloads
      obtain ⟨path, d, hd, hstops, hbefore⟩ := hloads.stops_root
      have hle : path ≤ p ++ (List.replicate k q).flatten :=
        not_lt.1 fun hlt => hnot (hbefore _ turn hlt hturn)
      rcases firstFault_of_stops (textInOrder_ofText limits collections text) hd hstops hbefore
        with hlimit | ⟨rfl, hlong⟩ | ⟨point, fault, rfl, hfirst⟩
      · exact .inl ⟨e, rfl, kind_of_limit hlimit, hlimit⟩
      · exact .inr (.inl ⟨rfl, hlong⟩)
      · exact .inr (.inr ⟨⟨path, point⟩, fault, k, rfl, hfirst, hle⟩)
    · rw [hload] at hloads
      exact absurd (hloads.passed rfl _ List.mem_cons_self _ turn hturn) hnot

/-- A root that is among its own children, behind a text with some integer as a key. -/
def loopBehind (n : Int) : Array Value :=
  #[.map [(.text "type", .text "root"), (.text "children", .list
    [.map [(.text "type", .text "text"), (.int n, .null)], .ref 0])]]

theorem cyclic_loopBehind (n : Int) : Cyclic { collections := loopBehind n } (.ref 0) :=
  ⟨[], [1], .ref 0, by decide, rfl, rfl⟩

theorem load_loopBehind {n : Int} (hn : ¬ isWritable n) :
    load { collections := loopBehind n } (.ref 0) = .error .integerTooLong := by
  have hdata : dataOf [(.text "type", .text "text"), (.int n, .null)] = none :=
    dataOf_eq_none (List.mem_cons_of_mem _ List.mem_cons_self) (mt Value.isShowable_int.1 hn)
  refine load_eq_iff.2 ⟨_, .failed rfl rfl (.unshown rfl rfl .done ?_)⟩
  rw [hdata]

/-- The smallest integer that is too long, as a key: loading ends with neither of its two kinds of
errors. -/
theorem load_cyclic_long_key :
    Cyclic { collections := loopBehind (10 ^ mostDigits : Nat) } (.ref 0)
    ∧ ∃ e, load { collections := loopBehind (10 ^ mostDigits : Nat) } (.ref 0) = .error e
      ∧ e.kind = "ValueError" :=
  ⟨cyclic_loopBehind _, _, load_loopBehind not_isWritable_tenPow, rfl⟩

end Source

end MarkdownLint
