import MarkdownLint.Proofs.Anchors
import MarkdownLint.Proofs.Reports

/-!
# Reports in a row

Reports are made one after the other, and one that cannot be placed is no hindrance to the next
(`Sink.calls`).  Each is answered as it would be alone, and what is answered with a diagnostic is
what the sink has at the end, behind what it had before (`calls_eq`).

An answer depends on the place: a place that reaches past the text is refused with the offset that
does, unless that is too long to be shown, and all others that are of some kind are found
(`answers_diagnose`).  A node is at its anchor, the first span on the way up from the parent it is
given or has, and this way comes to its end (`anchored_iff`).
-/

namespace MarkdownLint

namespace Document

/-- A node, given a parent perhaps, is anchored at its own span or else at the first one on the way
up from its parent. -/
inductive Anchored (d : Document) (n : Node) (parent : Option Node) : Option Span → Prop
  | own {s : Span} (h : n.span = some s) : d.Anchored n parent (some s)
  | above {r : Option Span} {k : Nat} (h : n.span = none)
      (climbs : d.Climbs k (parent.or (d.parentOf n)) r) : d.Anchored n parent r

/-- A place reaches past a text, and this is the first offset of it that does. -/
inductive Overruns (d : Document) : Locatable → Int → Prop
  | offset {o : Int} (h : o < 0 ∨ d.text.length < o) : d.Overruns (.offset o) o
  | node {n : Node} {parent : Option Node} {s : Span}
      (anchored : d.Anchored n parent (some s)) (h : d.text.length < s.stop) :
    d.Overruns (.node n parent) (if d.text.length < s.start then s.start else s.stop)

/-- The position and the range of a place within a text. -/
inductive PlacedAt (d : Document) : Locatable → Option Position → Option PositionRange → Prop
  | nowhere : d.PlacedAt .nowhere none none
  | position (p : Position) : d.PlacedAt (.position p) (some p) none
  | range (r : PositionRange) : d.PlacedAt (.range r) (some r.start) (some r)
  | offset {o : Int} {p : Position} (h : d.location.toPosition o = .ok p) :
    d.PlacedAt (.offset o) (some p) none
  | unanchored {n : Node} {parent : Option Node} (anchored : d.Anchored n parent none) :
    d.PlacedAt (.node n parent) none none
  | anchored {n : Node} {parent : Option Node} {s : Span} {p q : Position}
      (anchored : d.Anchored n parent (some s))
      (start : d.location.toPosition s.start = .ok p)
      (stop : d.location.toPosition s.stop = .ok q) :
    d.PlacedAt (.node n parent) (some p) (some ⟨p, q⟩)

variable {d : Document} {n : Node} {parent : Option Node} {r : Option Span}

theorem Climbs.unique {k l : Nat} {m : Option Node} {r' : Option Span} (h : d.Climbs k m r)
    (h' : d.Climbs l m r') : r = r' := by
  have hk := climb_of_climbs (h.mono (Nat.le_max_left k l))
  have hl := climb_of_climbs (h'.mono (Nat.le_max_right k l))
  exact hk.symm.trans hl

theorem Anchored.unique {r' : Option Span} (h : d.Anchored n parent r)
    (h' : d.Anchored n parent r') : r = r' := by
  cases h with
  | own hs =>
    cases h' with
    | own hs' => rw [← hs, ← hs']
    | above hs' => simp [hs] at hs'
  | above hs hclimbs =>
    cases h' with
    | own hs' => simp [hs'] at hs
    | above _ hclimbs' => exact hclimbs.unique hclimbs'

section Ends

variable (hid : d.tree.Identified)

include hid

/-- From the parent of a node, in the tree or not, the way up comes to its end before it has passed
as many nodes as the tree has places. -/
theorem exists_climbs_parentOf (n : Node) : ∃ r, d.Climbs d.visits.length (d.parentOf n) r := by
  by_cases hmem : ∃ p c, d.tree.follow? p = some c ∧ c.serial = n.serial
  · obtain ⟨p, c, hp, hserial⟩ := hmem
    have hparent : d.parentOf n = d.parentOf c := by
      simp only [parentOf, hserial]
    obtain ⟨last, hlast⟩ := Node.exists_isLast hp
    have hlength := length_lt_of_follow? hlast.follow
    rcases List.eq_nil_or_concat last with rfl | ⟨q, i, rfl⟩
    · obtain rfl : d.tree = c := Option.some.inj hlast.follow
      rw [hparent, parentOf_root hid]
      exact ⟨none, .top⟩
    · rw [List.concat_eq_append] at hlast hlength
      obtain ⟨m, hm, hc⟩ := Node.follow?_snoc_eq_some_iff.1 hlast.follow
      rw [hparent, parentOf_of_isLast hid hlast hm hc]
      have hclimbs := climbs_of_isLast hid (hlast.of_snoc hm hc)
      rw [List.length_append, List.length_singleton] at hlength
      exact ⟨_, hclimbs.mono (by omega)⟩
  · rw [parentOf_of_notMem fun p c hp hserial => hmem ⟨p, c, hp, hserial⟩]
    exact ⟨none, .top⟩

theorem exists_climbs (n : Node) (parent : Option Node) :
    ∃ r, d.Climbs (d.visits.length + 1) (parent.or (d.parentOf n)) r := by
  rcases parent with _ | m
  · obtain ⟨r, hr⟩ := exists_climbs_parentOf hid n
    exact ⟨r, hr.mono (Nat.le_succ _)⟩
  · rcases hs : m.span with _ | s
    · obtain ⟨r, hr⟩ := exists_climbs_parentOf hid m
      exact ⟨r, .up hs hr⟩
    · exact ⟨some s, .found hs⟩

theorem anchored_anchor (n : Node) (parent : Option Node) :
    d.Anchored n parent (d.anchor n parent) := by
  unfold anchor
  rcases hs : n.span with _ | s
  · obtain ⟨r, hr⟩ := exists_climbs hid n parent
    simp only [climb_of_climbs hr]
    exact .above hs hr
  · exact .own hs

theorem anchored_iff : d.Anchored n parent r ↔ d.anchor n parent = r := by
  constructor
  · intro h
    exact (anchored_anchor hid n parent).unique h
  · rintro rfl
    exact anchored_anchor hid n parent

end Ends

section Places

/-- Every place is found, reaches past the text or is of no kind. -/
theorem place_cases (hid : d.tree.Identified) (w : Locatable) :
    (∃ position range, d.place w = .ok (position, range) ∧ d.PlacedAt w position range)
      ∨ (∃ o, d.Overruns w o
        ∧ d.place w = .error (.location (.ofOutOfRange (.offset o d.text.length))))
      ∨ ∃ kind, w = .unsupported kind ∧ d.place w = .error (.unlocatable kind) := by
  cases w with
  | nowhere => exact .inl ⟨none, none, rfl, .nowhere⟩
  | position p => exact .inl ⟨some p, none, rfl, .position p⟩
  | range r => exact .inl ⟨some r.start, some r, rfl, .range r⟩
  | unsupported kind => exact .inr (.inr ⟨kind, rfl, rfl⟩)
  | offset o =>
    by_cases h : o < 0 ∨ d.text.length < o
    · refine .inr (.inl ⟨o, .offset h, ?_⟩)
      simp only [place, toPosition_eq_error h]
    · left
      have hrange : 0 ≤ o ∧ o ≤ d.location.length := by
        rw [d.length_location]
        omega
      obtain ⟨p, hp⟩ := (Location.exists_toPosition_iff d.inOrder).2 hrange
      exact ⟨some p, none, by simp only [place, hp], .offset hp⟩
  | node n parent =>
    have hanchored := anchored_anchor hid n parent
    rw [place_node]
    generalize d.anchor n parent = r at hanchored ⊢
    rcases r with _ | s
    · exact .inl ⟨none, none, rfl, .unanchored hanchored⟩
    · by_cases h : d.text.length < s.stop
      · refine .inr (.inl ⟨_, .node hanchored h, ?_⟩)
        rw [spanPlace, rangeOf_eq_error h]
        rfl
      · left
        have hle := s.start_le_stop
        obtain ⟨p, hp⟩ := toPosition_ok (d := d) (o := s.start) (by omega)
        obtain ⟨q, hq⟩ := toPosition_ok (d := d) (o := s.stop) (by omega)
        refine ⟨some p, some ⟨p, q⟩, ?_, .anchored hanchored hp hq⟩
        rw [spanPlace, rangeOf, hp, hq]
        rfl

theorem Overruns.unique {w : Locatable} {o o' : Int} (h : d.Overruns w o) (h' : d.Overruns w o') :
    o = o' := by
  cases h with
  | offset => cases h'; rfl
  | node hs =>
    cases h' with
    | node hs' =>
      obtain rfl := Option.some.inj (hs.unique hs')
      rfl

theorem PlacedAt.not_overruns {w : Locatable} {position : Option Position}
    {range : Option PositionRange} (h : d.PlacedAt w position range) (o : Int) :
    ¬ d.Overruns w o := by
  rintro (h' | ⟨hanchored, h'⟩)
  · cases h with
    | offset hp =>
      rw [toPosition_eq_error h'] at hp
      cases hp
  · cases h with
    | unanchored hnone => cases hnone.unique hanchored
    | anchored hsome _ hstop =>
      obtain rfl := Option.some.inj (hsome.unique hanchored)
      rw [toPosition_eq_error (.inr (by omega))] at hstop
      cases hstop

theorem PlacedAt.position_eq {w : Locatable} {position : Option Position}
    {range : Option PositionRange} (h : d.PlacedAt w position range) {x : PositionRange}
    (hx : range = some x) : position = some x.start := by
  cases h <;> cases hx <;> rfl

end Places

end Document

theorem Locatable.ofValue_eq_unsupported_iff {v : Value} {kind : String} :
    ofValue v = .unsupported kind ↔ v ≠ .null ∧ (∀ n, v ≠ .int n) ∧ kind = v.kindName := by
  cases v <;> simp [ofValue, eq_comm]

namespace Sink

/-- Makes a report, and goes on with the sink as it was if that cannot be placed. -/
def call (s : Sink) (r : Report) : Except ReportError Diagnostic × Sink :=
  match s.report r with
  | .ok (x, t) => (.ok x, t)
  | .error e => (.error e, s)

/-- Makes reports one after the other, with the answers and the sink after the last. -/
def calls (s : Sink) : List Report → List (Except ReportError Diagnostic) × Sink
  | [] => ([], s)
  | r :: rs => ((s.call r).1 :: ((s.call r).2.calls rs).1, ((s.call r).2.calls rs).2)

/-- The diagnostics among some answers, in order. -/
def recorded (answers : List (Except ReportError Diagnostic)) : List Diagnostic :=
  answers.filterMap fun
    | .ok x => some x
    | .error _ => none

/-- What the answer to a report has to be. -/
structure Answers (s : Sink) (r : Report) (answer : Except ReportError Diagnostic) : Prop where
  outOfRange_iff : ∀ e, answer = .error (.location (.outOfRange e)) ↔
    ∃ o, s.document.Overruns r.place o ∧ isWritable o ∧ e = .offset o s.document.text.length
  integerTooLong_iff : answer = .error (.location .integerTooLong) ↔
    ∃ o, s.document.Overruns r.place o ∧ ¬ isWritable o
  unlocatable_iff : ∀ kind, answer = .error (.unlocatable kind) ↔ r.place = .unsupported kind
  ok_of : (∀ o, ¬ s.document.Overruns r.place o) → (∀ kind, r.place ≠ .unsupported kind) →
    ∃ x, answer = .ok x
  placedAt : ∀ x, answer = .ok x → s.document.PlacedAt r.place x.position x.range
  marks : ∀ x, answer = .ok x → x.message = r.message ∧ x.ruleId = s.ruleId ∧ x.source = s.source
    ∧ x.severity = s.severity ∧ ∀ range, x.range = some range → x.position = some range.start

variable {s : Sink}

theorem recorded_cons (answer : Except ReportError Diagnostic)
    (answers : List (Except ReportError Diagnostic)) :
    recorded (answer :: answers) = recorded [answer] ++ recorded answers := by
  cases answer <;> rfl

theorem call_eq (s : Sink) (r : Report) :
    s.call r = (s.diagnose r,
      { s with diagnostics := s.diagnostics ++ (recorded [s.diagnose r]).toArray }) := by
  unfold call report
  rcases s.diagnose r with e | x
  · simp [Except.map, recorded]
  · simp [Except.map, recorded]

theorem calls_eq : ∀ (rs : List Report) (s : Sink),
    s.calls rs = (rs.map s.diagnose,
      { s with diagnostics := s.diagnostics ++ (recorded (rs.map s.diagnose)).toArray })
  | [], s => by simp [calls, recorded]
  | r :: rs, s => by
    have ih := calls_eq rs
      { s with diagnostics := s.diagnostics ++ (recorded [s.diagnose r]).toArray }
    rw [calls, call_eq, List.map_cons, recorded_cons (s.diagnose r) (rs.map s.diagnose)]
    simp only [ih, List.append_toArray, Array.append_assoc]
    -- What a sink has recorded leaves its answers as they are.
    rfl

section Answers

variable {r : Report}

theorem answers_of_placedAt {position : Option Position} {range : Option PositionRange}
    (hplace : s.document.place r.place = .ok (position, range))
    (hat : s.document.PlacedAt r.place position range) : s.Answers r (s.diagnose r) := by
  have hover := hat.not_overruns
  have hkind : ∀ kind, r.place ≠ .unsupported kind := by
    intro kind hr
    rw [hr] at hat
    cases hat
  unfold diagnose
  rw [hplace]
  refine ⟨fun e => ⟨nofun, ?_⟩, ⟨nofun, ?_⟩, fun kind => ⟨nofun, fun h => absurd h (hkind kind)⟩,
    fun _ _ => ⟨_, rfl⟩, ?_, ?_⟩
  · rintro ⟨o, ho, -⟩
    exact absurd ho (hover o)
  · rintro ⟨o, ho, -⟩
    exact absurd ho (hover o)
  · rintro _ ⟨⟩
    exact hat
  · rintro _ ⟨⟩
    exact ⟨rfl, rfl, rfl, rfl, fun x hx => hat.position_eq hx⟩

theorem answers_of_overruns {o : Int} (hover : s.document.Overruns r.place o)
    (hplace : s.document.place r.place
      = .error (.location (.ofOutOfRange (.offset o s.document.text.length)))) :
    s.Answers r (s.diagnose r) := by
  have hkind : ∀ kind, r.place ≠ .unsupported kind := by
    intro kind hr
    rw [hr] at hover
    cases hover
  unfold diagnose
  rw [hplace, LocationError.ofOutOfRange_offset]
  by_cases ho : isWritable o
  · rw [if_pos ho]
    refine ⟨fun e => ⟨?_, ?_⟩, ⟨nofun, ?_⟩, fun kind => ⟨nofun, fun h => absurd h (hkind kind)⟩,
      fun h => absurd hover (h o), nofun, nofun⟩
    · rintro ⟨⟩
      exact ⟨o, hover, ho, rfl⟩
    · rintro ⟨o', hover', -, rfl⟩
      rw [hover.unique hover']
      rfl
    · rintro ⟨o', hover', ho'⟩
      rw [← hover.unique hover'] at ho'
      exact absurd ho ho'
  · rw [if_neg ho]
    refine ⟨fun e => ⟨nofun, ?_⟩, ⟨fun _ => ⟨o, hover, ho⟩, fun _ => rfl⟩,
      fun kind => ⟨nofun, fun h => absurd h (hkind kind)⟩, fun h => absurd hover (h o), nofun,
      nofun⟩
    rintro ⟨o', hover', ho', -⟩
    rw [← hover.unique hover'] at ho'
    exact absurd ho' ho

theorem answers_of_unsupported {kind : String} (hkind : r.place = .unsupported kind)
    (hplace : s.document.place r.place = .error (.unlocatable kind)) :
    s.Answers r (s.diagnose r) := by
  have hover : ∀ o, ¬ s.document.Overruns r.place o := by
    intro o ho
    rw [hkind] at ho
    cases ho
  unfold diagnose
  rw [hplace]
  refine ⟨fun e => ⟨nofun, ?_⟩, ⟨nofun, ?_⟩, fun kind' => ⟨?_, ?_⟩,
    fun _ h => absurd hkind (h kind), nofun, nofun⟩
  · rintro ⟨o, ho, -⟩
    exact absurd ho (hover o)
  · rintro ⟨o, ho, -⟩
    exact absurd ho (hover o)
  · rintro ⟨⟩
    exact hkind
  · intro h
    rw [hkind] at h
    cases h
    rfl

theorem answers_diagnose (hid : s.document.tree.Identified) (r : Report) :
    s.Answers r (s.diagnose r) := by
  rcases s.document.place_cases hid r.place with
    ⟨position, range, hplace, hat⟩ | ⟨o, hover, hplace⟩ | ⟨kind, hkind, hplace⟩
  · exact answers_of_placedAt hplace hat
  · exact answers_of_overruns hover hplace
  · exact answers_of_unsupported hkind hplace

end Answers

/-- Reports in a row, over a document that has one node under one serial: each is answered as its
place asks, and the sink ends with what the answers give behind what it had.  What it has after some
of the reports is the beginning of what it has after more, and a report that cannot be placed leaves
it alone.  A value that is no place stands for one of no kind. -/
theorem calls_spec (s : Sink) (hid : s.document.tree.Identified) (rs : List Report) :
    List.Forall₂ s.Answers rs (s.calls rs).1
    ∧ (s.calls rs).2
      = { s with diagnostics := s.diagnostics ++ (recorded (s.calls rs).1).toArray }
    ∧ (∀ before after, rs = before ++ after →
      (s.calls before).2.diagnostics.toList <+: (s.calls rs).2.diagnostics.toList)
    ∧ (∀ before r after e, rs = before ++ r :: after → s.diagnose r = .error e →
      (s.calls (before ++ [r])).2 = (s.calls before).2)
    ∧ ∀ (v : Value) (kind : String), Locatable.ofValue v = .unsupported kind
      ↔ v ≠ .null ∧ (∀ n, v ≠ .int n) ∧ kind = v.kindName := by
  refine ⟨?_, ?_, fun before after h => ?_, fun before r after e _ hr => ?_,
    fun v kind => Locatable.ofValue_eq_unsupported_iff⟩
  · rw [calls_eq, List.forall₂_map_right_iff]
    exact List.forall₂_same.2 fun r _ => answers_diagnose hid r
  · simp only [calls_eq]
  · have hrecorded : recorded (rs.map s.diagnose)
        = recorded (before.map s.diagnose) ++ recorded (after.map s.diagnose) := by
      rw [h, List.map_append, recorded, List.filterMap_append]
      rfl
    simp only [calls_eq, hrecorded, Array.toList_append, ← List.append_assoc]
    exact List.prefix_append _ _
  · have hrecorded : recorded ((before ++ [r]).map s.diagnose)
        = recorded (before.map s.diagnose) := by
      simp [recorded, hr]
    simp only [calls_eq, hrecorded]

/-- A shared text, an offset past the end, a truth value and the end itself. -/
theorem calls_spec_mixed :
    ∃ (s : Sink) (rs : List Report),
      s = { document := Document.sharingDocument, ruleId := some "rule", severity := .error }
      ∧ rs = [⟨"shared", .node Document.sharedText none⟩, ⟨"past", .offset 13⟩,
        ⟨"flag", .ofValue (.bool true)⟩, ⟨"end", .offset 12⟩]
      ∧ s.document.tree.Identified
      ∧ List.Forall₂ s.Answers rs (s.calls rs).1
      ∧ (s.calls rs).2
        = { s with diagnostics := s.diagnostics ++ (recorded (s.calls rs).1).toArray }
      ∧ (s.calls rs).2.diagnostics.toList.map (·.message) = ["shared", "end"] := by
  refine ⟨_, _, rfl, rfl, Document.identified_sharingTree, ?_⟩
  have hid : Document.sharingDocument.tree.Identified := Document.identified_sharingTree
  obtain ⟨hanswers, hsink, -⟩ := calls_spec
    { document := Document.sharingDocument, ruleId := some "rule", severity := .error } hid
    [⟨"shared", .node Document.sharedText none⟩, ⟨"past", .offset 13⟩,
      ⟨"flag", .ofValue (.bool true)⟩, ⟨"end", .offset 12⟩]
  exact ⟨hanswers, hsink, by decide +kernel⟩

/-- A root alone, from the start of a text to some offset. -/
def rootUpTo (stop : Nat) : Node :=
  ⟨0, "root", [], some ⟨0, stop, Nat.zero_le stop⟩, none, []⟩

theorem identified_rootUpTo (stop : Nat) : (rootUpTo stop).Identified := by
  intro p q n m hp hq _
  have hroot : ∀ p n, (rootUpTo stop).follow? p = some n → n = rootUpTo stop := by
    rintro (_ | ⟨i, p⟩) n h
    · exact (Option.some.inj h).symm
    · simp [rootUpTo, Node.follow?] at h
  rw [hroot p n hp, hroot q m hq]

/-- A node whose span ends past the text, so far that the error cannot show the offset: it is not
said to be out of range. -/
theorem calls_past_long :
    ∃ s : Sink, s.document.text = "a" ∧ s.document.tree = rootUpTo (10 ^ mostDigits)
      ∧ s.document.tree.Identified
      ∧ s.document.Overruns (.node s.document.tree none) (10 ^ mostDigits : Nat)
      ∧ (s.calls [⟨"past", .node s.document.tree none⟩]).1 = [.error (.location .integerTooLong)]
      ∧ ∀ e, (s.calls [⟨"past", .node s.document.tree none⟩]).1
        ≠ [.error (.location (.outOfRange e))] := by
  have hpos := one_lt_tenPow
  generalize hstop : 10 ^ mostDigits = stop at hpos
  have hlong : ¬ isWritable stop := hstop ▸ not_isWritable_tenPow
  have hid := identified_rootUpTo stop
  have hover : Document.Overruns { text := "a", tree := rootUpTo stop }
      (.node (rootUpTo stop) none) stop := by
    have hlength : "a".length = 1 := by decide
    exact .node (s := ⟨0, stop, Nat.zero_le stop⟩) (.own rfl) (by simpa [hlength] using hpos)
  have hcalls : (calls { document := { text := "a", tree := rootUpTo stop } }
      [⟨"past", .node (rootUpTo stop) none⟩]).1 = [.error (.location .integerTooLong)] := by
    rw [calls_eq, List.map_singleton,
      ((answers_diagnose hid _).integerTooLong_iff).2 ⟨_, hover, hlong⟩]
  refine ⟨{ document := { text := "a", tree := rootUpTo stop } }, rfl, rfl, hid, hover, hcalls,
    fun e => ?_⟩
  rw [hcalls]
  simp

end Sink

end MarkdownLint
