import MarkdownLint.Proofs.Blocks

/-!
# The history of a registry

A registry that is in use holds the first rule that was registered under each id, and no rule seen
so far has a serial that is still free (`Session.Holds`).  Every call keeps this, with what it
registers added to the history (`holds_call`), so it holds after any calls (`holds_run`).  What a
registry shows and what it answers to a call is then told by the history alone (`run_history`).
-/

namespace MarkdownLint

namespace Registry

/-- The rule that a call registered, perhaps not for the first time. -/
def Answer.registered? : Answer → Option Rule
  | .registered r => some r
  | _ => none

/-- A registry shows the ids of the rules known, in increasing order, and under each id the first
rule known. -/
structure Shows (g : Registry) (known : List Rule) : Prop where
  increasing : g.available.Pairwise (· < ·)
  mem_available : ∀ id, id ∈ g.available ↔ ∃ r ∈ known, r.id = id
  all : List.Forall₂ (fun id r => known.find? (·.id = id) = some r) g.available g.all
  get : ∀ id r, g.get id = .ok r ↔ known.find? (·.id = id) = some r
  get_error : ∀ id, id ∉ g.available → g.get id = .error (.unknownRule id g.available)

/-- What a registry answers to a call, and what it becomes, where the rules known have been
registered. -/
inductive Answers (known : List Rule) (g : Registry) : Call → Answer → Registry → Prop
  | added {r : Rule} (free : ∀ k ∈ known, k.id ≠ r.id) :
    Answers known g (.register r) (.registered r) ⟨g.rules ++ [r]⟩
  | again {r first : Rule} (first_eq : known.find? (·.id = r.id) = some first)
      (same : first.serial = r.serial) :
    Answers known g (.register r) (.registered r) g
  | taken {r first : Rule} (first_eq : known.find? (·.id = r.id) = some first)
      (other : first.serial ≠ r.serial) :
    Answers known g (.register r) (.refused ⟨r.id⟩) g
  | declared {d : Declaration} {fresh : Nat} (free : ∀ k ∈ known, k.id ≠ d.id)
      (unused : ∀ k ∈ known, k.serial < fresh) :
    Answers known g (.declare d) (.registered (d.build fresh)) ⟨g.rules ++ [d.build fresh]⟩
  | undeclared {d : Declaration} {k : Rule} (mem : k ∈ known) (taken : k.id = d.id) :
    Answers known g (.declare d) (.refused ⟨d.id⟩) g
  | found {id : String} {r : Rule} (first_eq : known.find? (·.id = id) = some r) :
    Answers known g (.get id) (.found r) g
  | unknown {id : String} (free : ∀ k ∈ known, k.id ≠ id) :
    Answers known g (.get id) (.unknown (.unknownRule id g.available)) g
  | available : Answers known g .available (.ids g.available) g
  | all : Answers known g .all (.rules g.all) g

section Lookup

variable {g : Registry}

theorem get_eq_ok_iff {id : String} {r : Rule} : g.get id = .ok r ↔ g.find? id = some r := by
  unfold get
  cases g.find? id <;> simp

theorem find?_eq_none_iff {known : List Rule} {id : String} :
    known.find? (·.id = id) = none ↔ ∀ k ∈ known, k.id ≠ id := by
  simp

theorem forall₂_filterMap {ids : List String} (h : ∀ id ∈ ids, ∃ r, g.find? id = some r) :
    List.Forall₂ (fun id r => g.find? id = some r) ids (ids.filterMap g.find?) := by
  induction ids with
  | nil => exact .nil
  | cons id ids ih =>
    obtain ⟨r, hr⟩ := h id List.mem_cons_self
    rw [List.filterMap_cons_some hr]
    exact .cons hr (ih fun id' hid' => h id' (List.mem_cons_of_mem _ hid'))

/-- Without an id that is taken twice, the sorted ids increase strictly. -/
theorem available_increasing (h : (g.rules.map (·.id)).Nodup) :
    g.available.Pairwise (· < ·) := by
  obtain ⟨hperm, hsorted⟩ := g.available_spec
  exact (hsorted.and (hperm.nodup_iff.2 h)).imp fun hab => lt_of_le_of_ne hab.1 hab.2

theorem shows_of_find? {known : List Rule} (hnodup : (g.rules.map (·.id)).Nodup)
    (hfind : ∀ id, g.find? id = known.find? (·.id = id)) : g.Shows known := by
  have hmem : ∀ id, id ∈ g.available ↔ ∃ r, g.find? id = some r := by
    intro id
    rw [Registry.mem_available, ← Option.isSome_iff_exists, find?, List.find?_isSome]
    simp
  refine ⟨available_increasing hnodup, fun id => ?_, ?_, fun id r => ?_, fun id hid => ?_⟩
  · rw [hmem, hfind, ← Option.isSome_iff_exists, List.find?_isSome]
    simp
  · simp only [← hfind]
    exact forall₂_filterMap fun id hid => (hmem id).1 hid
  · rw [get_eq_ok_iff, hfind]
  · rcases hget : g.get id with e | r
    · rw [(get_eq_error hget).2]
    · exact absurd (get_eq_ok hget).2.2 hid

end Lookup

end Registry

section Declarations

variable (d : Declaration) (fresh : Nat)

theorem Declaration.build_id : (d.build fresh).id = d.id := by
  unfold build
  cases d.readOption <;> rfl

theorem Declaration.le_build_serial : fresh ≤ (d.build fresh).serial := by
  unfold build
  cases d.readOption
  · exact Nat.le_refl fresh
  · exact Nat.le_succ fresh

end Declarations

namespace Registry.Session

/-- A registry holds the first of the rules known under each id, and the serials of all are used
up. -/
structure Holds (s : Session) (known : List Rule) : Prop where
  find_eq : ∀ id, s.registry.find? id = known.find? (·.id = id)
  nodup : (s.registry.rules.map (·.id)).Nodup
  serial_lt : ∀ k ∈ known, k.serial < s.fresh

variable {s : Session} {known : List Rule}

theorem register_of_free {r : Rule} (h : s.registry.find? r.id = none) :
    s.register r = (.registered r, ⟨⟨s.registry.rules ++ [r]⟩, max s.fresh (r.serial + 1)⟩) := by
  simp only [register, Registry.register, h]

/-- Under an id that is taken a rule is only registered if it is the one that has the id, and the
registry stays as it is. -/
theorem register_of_taken {r first : Rule} (h : s.registry.find? r.id = some first) :
    s.register r = (if first.serial = r.serial then .registered r else .refused ⟨r.id⟩,
      ⟨s.registry, max s.fresh (r.serial + 1)⟩) := by
  simp only [register, Registry.register, h]
  split_ifs <;> rfl

theorem Holds.register (h : s.Holds known) (r : Rule) :
    (s.register r).2.Holds (known ++ (s.register r).1.registered?.toList) := by
  have hserial : ∀ k ∈ known ++ [r], k.serial < max s.fresh (r.serial + 1) := by
    intro k hk
    rcases List.mem_append.1 hk with hk | hk
    · have := h.serial_lt k hk
      omega
    · obtain rfl := List.mem_singleton.1 hk
      omega
  rcases hfind : s.registry.find? r.id with _ | first
  · rw [register_of_free hfind]
    refine ⟨fun id => ?_, ?_, hserial⟩
    · have hid := h.find_eq id
      rw [find?] at hid ⊢
      rw [Answer.registered?, Option.toList_some, List.find?_append, List.find?_append, hid]
    · have hfree := List.find?_eq_none.1 hfind
      rw [List.map_append, List.nodup_append]
      exact ⟨h.nodup, by simp, by simpa using hfree⟩
  · rw [register_of_taken hfind]
    split_ifs with hsame
    · refine ⟨fun id => ?_, h.nodup, hserial⟩
      rw [Answer.registered?, Option.toList_some, List.find?_append, h.find_eq]
      by_cases hid : r.id = id
      · -- The first rule known under the id comes before the one that is registered again.
        rw [← hid, ← h.find_eq, hfind, Option.some_or]
      · simp [hid]
    · simp only [Answer.registered?, Option.toList_none, List.append_nil]
      exact ⟨h.find_eq, h.nodup, fun k hk => hserial k (List.mem_append_left _ hk)⟩

theorem holds_call (h : s.Holds known) (c : Call) :
    (s.call c).2.Holds (known ++ (s.call c).1.registered?.toList) := by
  cases c with
  | register r => exact h.register r
  | declare d => exact h.register _
  | get id =>
    rcases hget : s.registry.get id with e | r
    · simpa [call, hget, Answer.registered?] using h
    · simpa [call, hget, Answer.registered?] using h
  | available => simpa [call, Answer.registered?] using h
  | all => simpa [call, Answer.registered?] using h

theorem holds_run (cs : List Call) :
    ∀ {s : Session} {known : List Rule}, s.Holds known →
      (s.run cs).2.Holds (known ++ (s.run cs).1.filterMap Answer.registered?) := by
  induction cs with
  | nil =>
    intro s known h
    simpa [run] using h
  | cons c cs ih =>
    intro s known h
    have htail := ih (holds_call h c)
    rcases hr : (s.call c).1.registered? with _ | r
    · simpa [run, hr] using htail
    · simpa [run, hr] using htail

theorem Holds.register_answers (h : s.Holds known) (r : Rule) :
    Answers known s.registry (.register r) (s.register r).1 (s.register r).2.registry := by
  have hfind := h.find_eq r.id
  rcases hknown : known.find? (·.id = r.id) with _ | first <;> rw [hknown] at hfind
  · rw [register_of_free hfind]
    exact .added (find?_eq_none_iff.1 hknown)
  · rw [register_of_taken hfind]
    split_ifs with hsame
    · exact .again hknown hsame
    · exact .taken hknown hsame

/-- A declaration makes a rule that has not been seen, so it never takes an id again. -/
theorem Holds.declare_answers (h : s.Holds known) (d : Declaration) :
    Answers known s.registry (.declare d) (s.call (.declare d)).1
      (s.call (.declare d)).2.registry := by
  have hfind := h.find_eq d.id
  rw [call]
  rcases hknown : known.find? (·.id = d.id) with _ | first <;> rw [hknown] at hfind
  · rw [register_of_free (by rw [d.build_id, hfind])]
    exact .declared (find?_eq_none_iff.1 hknown) h.serial_lt
  · have hmem := List.mem_of_find?_eq_some hknown
    have hne : first.serial ≠ (d.build s.fresh).serial :=
      Nat.ne_of_lt (Nat.lt_of_lt_of_le (h.serial_lt first hmem) (d.le_build_serial s.fresh))
    rw [register_of_taken (by rw [d.build_id, hfind]), if_neg hne, d.build_id]
    exact .undeclared hmem (by simpa using List.find?_some hknown)

theorem Holds.call_answers (h : s.Holds known) (c : Call) :
    Answers known s.registry c (s.call c).1 (s.call c).2.registry := by
  have hshows := shows_of_find? h.nodup h.find_eq
  cases c with
  | register r => exact h.register_answers r
  | declare d => exact h.declare_answers d
  | get id =>
    rcases hknown : known.find? (·.id = id) with _ | r
    · have hfree := find?_eq_none_iff.1 hknown
      have hid : id ∉ s.registry.available := by
        rw [hshows.mem_available]
        rintro ⟨k, hk, hid⟩
        exact hfree k hk hid
      rw [call, hshows.get_error id hid]
      exact .unknown hfree
    · rw [call, (hshows.get id r).2 hknown]
      exact .found hknown
  | available => exact .available
  | all => exact .all

theorem call_keeps (s : Session) (c : Call) :
    s.registry.rules <+: (s.call c).2.registry.rules := by
  have hregister : ∀ r, s.registry.rules <+: (s.register r).2.registry.rules := by
    intro r
    rcases hfind : s.registry.find? r.id with _ | first
    · rw [register_of_free hfind]
      exact List.prefix_append _ _
    · simp only [register_of_taken hfind, List.prefix_rfl]
  cases c with
  | register r => exact hregister r
  | declare d => exact hregister _
  | get id =>
    rw [call]
    cases s.registry.get id <;> exact List.prefix_rfl
  | available => exact List.prefix_rfl
  | all => exact List.prefix_rfl

theorem run_keeps (cs : List Call) :
    ∀ s : Session, s.registry.rules <+: (s.run cs).2.registry.rules := by
  induction cs with
  | nil => exact fun s => List.prefix_rfl
  | cons c cs ih => exact fun s => (s.call_keeps c).trans (ih _)

/-- After any calls on a registry whose rules have different ids, the registry shows the rules that
were there or have been registered, the first under each id in the order of the ids, and answers
every call by them.  No rule is lost or replaced later. -/
theorem run_history (s : Session) (hnodup : (s.registry.rules.map (·.id)).Nodup)
    (hfresh : ∀ r ∈ s.registry.rules, r.serial < s.fresh) (cs : List Call) :
    let known := s.registry.rules ++ (s.run cs).1.filterMap Answer.registered?
    let t := (s.run cs).2
    t.registry.Shows known
    ∧ (∀ c, Answers known t.registry c (t.call c).1 (t.call c).2.registry)
    ∧ ∀ later, t.registry.rules <+: (t.run later).2.registry.rules
      ∧ ∀ id r, t.registry.get id = .ok r → (t.run later).2.registry.get id = .ok r := by
  intro known t
  have hholds : t.Holds known := holds_run cs ⟨fun id => rfl, hnodup, hfresh⟩
  refine ⟨shows_of_find? hholds.nodup hholds.find_eq, hholds.call_answers, fun later => ?_⟩
  have hkept := t.run_keeps later
  refine ⟨hkept, fun id r hr => ?_⟩
  rw [get_eq_ok_iff] at hr ⊢
  exact hkept.find?_eq_some hr

/-- A check without findings, whose documentation has more than one line. -/
def tabs : Declaration where
  id := "no-tabs"
  documentation := some "Warn about tabs.\n\nSpaces are fine."
  check _ _ := {}

/-- A declaration made twice, another rule under a taken id, and the very rule that has it. -/
def tabsCalls : List Call :=
  [.declare tabs, .register (Linebreaks.rule 7), .declare tabs, .register (Linebreaks.rule 0)]

theorem run_history_tabs :
    (builtIn.rules.map (·.id)).Nodup ∧ (∀ r ∈ builtIn.rules, r.serial < 2)
    ∧ ∃ g : Registry, ((⟨builtIn, 2⟩ : Session).run tabsCalls).2.registry = g
      ∧ g.Shows (builtIn.rules ++ [tabs.build 2, Linebreaks.rule 0])
      ∧ Answers (builtIn.rules ++ [tabs.build 2, Linebreaks.rule 0]) g
        (.register (Linebreaks.rule 7)) (.refused ⟨"linebreak-style"⟩) g := by
  have hnodup : (builtIn.rules.map (·.id)).Nodup := by decide
  have hfresh : ∀ r ∈ builtIn.rules, r.serial < 2 := by
    intro r hr
    rcases List.mem_cons.1 hr with rfl | hr
    · decide
    · obtain rfl := List.mem_singleton.1 hr
      decide
  obtain ⟨hshows, hanswers, -⟩ := run_history ⟨builtIn, 2⟩ hnodup hfresh tabsCalls
  exact ⟨hnodup, hfresh, _, rfl, hshows, hanswers (.register (Linebreaks.rule 7))⟩

end Registry.Session

end MarkdownLint
