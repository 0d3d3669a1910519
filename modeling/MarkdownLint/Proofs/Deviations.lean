import MarkdownLint.Proofs.SoundRules
import Mathlib.Data.List.Forall2

/-!
# Line feeds that deviate

The line feeds of a text are listed from first to last, each with the style that the character
before it gives (`mem_lineFeeds_iff`, `lineFeeds_increasing`).  Once a style is accepted the tracker
holds on to it, and the check reports the line feeds of the other style; without a preference the
first line feed is accepted and does not deviate from itself (`reports_ofPreference`).  So a run
reports just the line feeds whose style differs from the preference or else from that of the first
one (`run_deviations`).
-/

namespace MarkdownLint

/-- The style of a line feed at an index of a text. -/
def styleAt (cs : List Char) (i : Nat) : LinebreakStyle :=
  if 0 < i ∧ cs[i - 1]? = some '\r' then .windows else .unix

/-- A text under a preference accepts the preferred style or else that of its first line feed. -/
inductive Accepts (cs : List Char) : Option LinebreakStyle → LinebreakStyle → Prop
  | preferred (style : LinebreakStyle) : Accepts cs (some style) style
  | first {i : Nat} (feed : cs[i]? = some '\n') (before : ∀ j < i, cs[j]? ≠ some '\n') :
    Accepts cs none (styleAt cs i)

/-- At an index there is a line feed of another style than the accepted one. -/
structure Deviates (cs : List Char) (preferred : Option LinebreakStyle) (i : Nat) : Prop where
  feed : cs[i]? = some '\n'
  style_ne : ∃ accepted, Accepts cs preferred accepted ∧ styleAt cs i ≠ accepted

section Feeds

variable {cs : List Char}

theorem at?_eq_styleAt {i : Nat} (h : i ≤ cs.length) :
    LinebreakStyle.at? cs i = some (styleAt cs i) := by
  cases i with
  | zero => rfl
  | succ i =>
    have hi : (i + 1 : Nat) - (1 : Int) = i := by omega
    rw [LinebreakStyle.at?, if_pos (by omega), hi, Int.toNat_natCast, List.getElem?_eq_getElem h]
    simp [styleAt, LinebreakStyle.after, List.getElem?_eq_getElem h]

/-- The style at the end of a text is told by its last character. -/
theorem styleAt_append_length (before cs : List Char) :
    styleAt (before ++ cs) before.length = .after before.getLast? := by
  rcases List.eq_nil_or_concat before with rfl | ⟨before, c, rfl⟩
  · rfl
  · simp [styleAt, LinebreakStyle.after]

/-- By induction on the text, with what has been read of it before: the line feeds are listed with
their indexes and their styles. -/
theorem mem_lineFeeds_append {f : Nat × LinebreakStyle} :
    ∀ cs before : List Char, f ∈ lineFeeds before.length before.getLast? cs
      ↔ ∃ k, cs[k]? = some '\n'
        ∧ f = (before.length + k, styleAt (before ++ cs) (before.length + k))
  | [], before => by simp [lineFeeds]
  | c :: cs, before => by
    have ih := mem_lineFeeds_append (f := f) cs (before ++ [c])
    rw [List.getLast?_concat, List.length_append, List.length_singleton, List.append_assoc,
      List.singleton_append] at ih
    have hcons : (∃ k, (c :: cs)[k]? = some '\n'
        ∧ f = (before.length + k, styleAt (before ++ c :: cs) (before.length + k)))
        ↔ (c = '\n' ∧ f = (before.length, .after before.getLast?))
          ∨ f ∈ lineFeeds (before.length + 1) (some c) cs := by
      rw [ih]
      constructor
      · rintro ⟨_ | k, hk, rfl⟩
        · exact .inl ⟨Option.some.inj hk, by rw [Nat.add_zero, styleAt_append_length]⟩
        · exact .inr ⟨k, hk, by rw [Nat.add_right_comm, Nat.add_assoc]⟩
      · rintro (⟨rfl, rfl⟩ | ⟨k, hk, rfl⟩)
        · exact ⟨0, rfl, by rw [Nat.add_zero, styleAt_append_length]⟩
        · exact ⟨k + 1, hk, by rw [Nat.add_right_comm, Nat.add_assoc]⟩
    rw [hcons, lineFeeds]
    split_ifs with hc
    · simp [hc]
    · simp [hc]

theorem mem_lineFeeds_iff {f : Nat × LinebreakStyle} :
    f ∈ lineFeeds 0 none cs ↔ cs[f.1]? = some '\n' ∧ f.2 = styleAt cs f.1 := by
  have h := mem_lineFeeds_append (f := f) cs []
  simp only [List.length_nil, List.getLast?_nil, List.nil_append, Nat.zero_add] at h
  rw [h]
  constructor
  · rintro ⟨k, hk, rfl⟩
    exact ⟨hk, rfl⟩
  · rintro ⟨hk, hstyle⟩
    exact ⟨f.1, hk, Prod.ext rfl hstyle⟩

theorem lineFeeds_increasing :
    ∀ (o : Nat) (before : Option Char) (cs : List Char),
      (lineFeeds o before cs).Pairwise (·.1 < ·.1)
  | _, _, [] => .nil
  | o, before, c :: cs => by
    rw [lineFeeds]
    split_ifs
    · exact .cons (fun f hf => (mem_lineFeeds hf).1) (lineFeeds_increasing _ _ cs)
    · exact lineFeeds_increasing _ _ cs

/-- The accepted style is the preferred one or that of the head of the line feeds. -/
theorem accepts_iff {preferred : Option LinebreakStyle} {style : LinebreakStyle} :
    Accepts cs preferred style
      ↔ preferred.or ((lineFeeds 0 none cs).head?.map (·.2)) = some style := by
  have hincreasing := lineFeeds_increasing 0 none cs
  have hmem := @mem_lineFeeds_iff cs
  generalize lineFeeds 0 none cs = feeds at hincreasing hmem
  constructor
  · rintro (_ | ⟨hfeed, hbefore⟩)
    · rfl
    · rename_i i
      have hi : (i, styleAt cs i) ∈ feeds := hmem.2 ⟨hfeed, rfl⟩
      cases feeds with
      | nil => cases hi
      | cons f feeds =>
        have hf := hmem.1 List.mem_cons_self
        rcases List.mem_cons.1 hi with rfl | hi
        · rfl
        · exact absurd hf.1 (hbefore _ ((List.pairwise_cons.1 hincreasing).1 _ hi))
  · intro h
    rcases preferred with _ | style'
    · cases feeds with
      | nil => cases h
      | cons f feeds =>
        obtain ⟨hfeed, hstyle⟩ := hmem.1 List.mem_cons_self
        obtain rfl : f.2 = style := Option.some.inj h
        rw [hstyle]
        refine .first hfeed fun j hj hfeed' => ?_
        have hj' : (j, styleAt cs j) ∈ f :: feeds := hmem.2 ⟨hfeed', rfl⟩
        rcases List.mem_cons.1 hj' with heq | htail
        · rw [← heq] at hj
          exact Nat.lt_irrefl _ hj
        · have := (List.pairwise_cons.1 hincreasing).1 _ htail
          exact Nat.lt_asymm hj this
    · obtain rfl := Option.some.inj h
      exact .preferred _

end Feeds

namespace Linebreaks

/-- A tracker that accepts a style holds on to it, and the line feeds of another style are
reported. -/
theorem reports_of_accepted (fixed : Bool) (style : LinebreakStyle) :
    ∀ feeds : List (Nat × LinebreakStyle),
      reports ⟨fixed, some style⟩ feeds
        = (feeds.filter (·.2 ≠ style)).map fun f => ⟨message style f.2, .offset f.1⟩
  | [] => rfl
  | f :: feeds => by
    have ih := reports_of_accepted fixed style feeds
    by_cases hf : f.2 = style
    · simp [reports, Tracker.check, hf, ih]
    · simp [reports, Tracker.check, hf, ih]

theorem reports_ofPreference {preferred : Option LinebreakStyle}
    {feeds : List (Nat × LinebreakStyle)} {style : LinebreakStyle}
    (h : preferred.or (feeds.head?.map (·.2)) = some style) :
    reports (.ofPreference preferred) feeds
      = (feeds.filter (·.2 ≠ style)).map fun f => ⟨message style f.2, .offset f.1⟩ := by
  rcases preferred with _ | style'
  · cases feeds with
    | nil => cases h
    | cons f feeds =>
      obtain rfl : f.2 = style := Option.some.inj h
      -- The first line feed is accepted, as it would be if its style had been.
      have hfirst : reports (.ofPreference none) (f :: feeds)
          = reports ⟨false, some f.2⟩ feeds := rfl
      rw [hfirst, reports_of_accepted, List.filter_cons_of_neg (by simp)]
  · obtain rfl := Option.some.inj h
    exact reports_of_accepted true _ feeds

/-- Without a line feed there is nothing to accept, nor to report. -/
theorem reports_ofPreference_none {preferred : Option LinebreakStyle}
    {feeds : List (Nat × LinebreakStyle)} (h : preferred.or (feeds.head?.map (·.2)) = none) :
    reports (.ofPreference preferred) feeds = [] := by
  obtain ⟨rfl, hhead⟩ := Option.or_eq_none_iff.1 h
  obtain rfl := List.head?_eq_none_iff.1 (Option.map_eq_none_iff.1 hhead)
  rfl

/-- The diagnostic of a line feed at an index, under a sink. -/
def Diagnosed (s : Sink) (preferred : Option LinebreakStyle) (i : Nat) (x : Diagnostic) : Prop :=
  let cs := s.document.text.toList
  ∃ accepted position, Accepts cs preferred accepted
    ∧ s.document.location.toPosition i = .ok position
    ∧ x = { message := message accepted (styleAt cs i), position := some position, range := none,
            ruleId := s.ruleId, source := s.source, severity := s.severity }

/-- Whatever its tree, a document under a preference has a diagnostic for each line feed that
deviates, in order, and the check comes to its end with nothing else. -/
theorem exists_diagnosed (s : Sink) (preferred : Option LinebreakStyle) :
    ∃ (indexes : List Nat) (xs : List Diagnostic),
      indexes.Pairwise (· < ·)
      ∧ (∀ i, i ∈ indexes ↔ Deviates s.document.text.toList preferred i)
      ∧ List.Forall₂ (Diagnosed s preferred) indexes xs
      ∧ List.Forall₂ (fun r x => s.diagnose r = .ok x) (check preferred s.document).reports xs := by
  rw [check]
  generalize hcs : s.document.text.toList = cs
  have hmem := @mem_lineFeeds_iff cs
  have hincreasing := lineFeeds_increasing 0 none cs
  have haccepts := @accepts_iff cs preferred
  generalize lineFeeds 0 none cs = feeds at hmem hincreasing haccepts ⊢
  rcases hstyle : preferred.or (feeds.head?.map (·.2)) with _ | style
  · refine ⟨[], [], .nil, fun i => iff_of_false (List.not_mem_nil) ?_, .nil, ?_⟩
    · rintro ⟨-, style, hstyle', -⟩
      rw [haccepts, hstyle] at hstyle'
      cases hstyle'
    · rw [reports_ofPreference_none hstyle]
      exact .nil
  · have hunique : ∀ style', Accepts cs preferred style' ↔ style' = style := fun style' => by
      rw [haccepts, hstyle, Option.some.injEq, eq_comm]
    have hplaced : ∀ f ∈ feeds.filter (·.2 ≠ style), ∃ x, Diagnosed s preferred f.1 x
        ∧ s.diagnose ⟨message style f.2, .offset f.1⟩ = .ok x := by
      intro f hf
      obtain ⟨hfeed, hf2⟩ := hmem.1 (List.mem_filter.1 hf).1
      have hlt : f.1 < cs.length := (List.getElem?_eq_some_iff.1 hfeed).1
      obtain ⟨p, hp, -⟩ := Location.exists_toPosition s.document.inOrder (o := f.1) (by
        rw [s.document.length_location, ← String.length_toList, hcs]
        omega)
      refine ⟨_, ⟨style, p, ?_, hp, rfl⟩, ?_⟩
      · rw [hcs, hunique]
      · rw [Sink.diagnose, Document.place, hp, hcs, hf2]
        rfl
    obtain ⟨xs, hxs⟩ := exists_forall₂ hplaced
    refine ⟨(feeds.filter (·.2 ≠ style)).map (·.1), xs, ?_, fun i => ?_, ?_, ?_⟩
    · exact List.pairwise_map.2 (hincreasing.filter _)
    · simp only [List.mem_map, List.mem_filter, hmem, decide_eq_true_eq]
      constructor
      · rintro ⟨f, ⟨⟨hfeed, hf2⟩, hne⟩, rfl⟩
        exact ⟨hfeed, style, (hunique style).2 rfl, hf2 ▸ hne⟩
      · rintro ⟨hfeed, style', hstyle', hne⟩
        rw [(hunique style').1 hstyle'] at hne
        exact ⟨(i, styleAt cs i), ⟨⟨hfeed, rfl⟩, hne⟩, rfl⟩
    · rw [List.forall₂_map_left_iff]
      exact hxs.imp fun _ _ h => h.1
    · rw [reports_ofPreference hstyle, List.forall₂_map_left_iff]
      exact hxs.imp fun _ _ h => h.2

theorem readOption_optionValue (preferred : Option LinebreakStyle) :
    readOption (optionValue preferred) = .ok preferred := by
  rcases preferred with _ | _ | _ <;> decide +kernel

/-- Every preference can be asked for.  Under a setting that asks for it the rule comes to its end
on every document and adds one diagnostic for each line feed whose style differs from the accepted
one: in the order of the line feeds, at their positions, with no range, and with a message that
names the accepted style and the one found. -/
theorem run_deviations (serial : Nat) (s : Sink) (preferred : Option LinebreakStyle) :
    let cs := s.document.text.toList
    (∃ setting, readOption setting = .ok preferred)
    ∧ (∀ i ≤ cs.length, LinebreakStyle.at? cs i = some (styleAt cs i))
    ∧ ∃ (indexes : List Nat) (xs : List Diagnostic),
      indexes.Pairwise (· < ·)
      ∧ (∀ i, i ∈ indexes ↔ Deviates cs preferred i)
      ∧ List.Forall₂ (Diagnosed s preferred) indexes xs
      ∧ ∀ setting, readOption setting = .ok preferred →
        (rule serial).run s setting = ({ s with diagnostics := s.diagnostics ++ xs }, none) := by
  obtain ⟨indexes, xs, hincreasing, hmem, hdiagnosed, hxs⟩ := exists_diagnosed s preferred
  refine ⟨⟨_, readOption_optionValue preferred⟩, fun i hi => at?_eq_styleAt hi, indexes, xs,
    hincreasing, hmem, hdiagnosed, fun setting hread => ?_⟩
  exact Rule.run_make hread rfl hxs

/-- A lone carriage return, a break of each style, and a line feed behind two carriage returns. -/
example :
    ((rule 0).run { document := {
        text := "\r\n\n\r\r\n\r"
        tree := ⟨0, "root", [], none, none, []⟩ } } .null).1.diagnostics.map (·.text)
    = #["2:1: Expected linebreaks to be windows (`\\r\\n`), not unix (`\\n`)"] := by
  decide +kernel

end Linebreaks

end MarkdownLint
