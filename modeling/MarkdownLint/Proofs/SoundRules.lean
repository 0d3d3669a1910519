import MarkdownLint.Proofs.Nesting
import MarkdownLint.Proofs.Reports
import MarkdownLint.Rule.Registry

/-!
# Sound rules

A rule is sound if it refuses the settings it does not read, and comes to its end on every tree
whose spans end within the text, with reports within the text (`Rule.Sound`).  The rule on line
breaks reports offsets of line feeds (`mem_lineFeeds`).  The rule on blank lines asks for the end
of a node only if the node has a span, and reports nodes that have one (`findings_within`).  So
both are sound (`sound_of_mem_builtIn`).
-/

namespace MarkdownLint

/-- A rule that refuses a setting or else stays within the text. -/
structure Rule.Sound (r : Rule) : Prop where
  refuses : ∀ {setting : Value} {e : OptionError}, r.prepare setting = .error e →
    ∀ kind message, e ≠ .crash kind message
  within : ∀ {setting : Value} {prepared : Prepared}, r.prepare setting = .ok prepared →
    ∀ d : Document, d.tree.EndsBy d.location.length → (prepared.check d).Within d.location.length

theorem Rule.sound_make {α : Type} {serial : Nat} {id description : String}
    {readOption : Value → Except OptionError α} {toValue : α → Value}
    {check : α → Document → Findings}
    (hread : ∀ {setting : Value} {e : OptionError}, readOption setting = .error e →
      ∀ kind message, e ≠ .crash kind message)
    (hcheck : ∀ option (d : Document), d.tree.EndsBy d.location.length →
      (check option d).Within d.location.length) :
    (Rule.make serial id description readOption toValue check).Sound := by
  refine ⟨fun {setting e} he => ?_, fun {setting prepared} hp d hd => ?_⟩
  · simp only [make] at he
    rcases hsetting : readOption setting with e' | option <;> rw [hsetting] at he
    · cases he
      exact hread hsetting
    · cases he
  · simp only [make] at hp
    rcases hsetting : readOption setting with e' | option <;> rw [hsetting] at hp
    · cases hp
    · cases hp
      exact hcheck option d hd

section Refusals

variable {setting : Value} (id reason : String)

theorem RuleError.ofRefused_of_isShowable (h : setting.IsShowable) :
    ofRefused id setting reason [setting] = malformed id setting reason :=
  if_pos (List.all_eq_true.2 fun _ hv => List.mem_singleton.1 hv ▸ h)

theorem RuleError.ofRefused_of_long (h : ¬ setting.IsShowable) :
    ofRefused id setting reason [setting] = integerTooLong :=
  if_neg fun hall => h (List.all_eq_true.1 hall _ (List.mem_singleton_self _))

end Refusals

/-- A sound rule that does not read a setting refuses it. -/
theorem Rule.Sound.exists_refused {r : Rule} (hr : r.Sound) {setting : Value} {e : OptionError}
    (he : r.prepare setting = .error e) :
    ∃ reason, r.configure setting = .error (.ofRefused r.id setting reason [setting]) := by
  unfold configure
  rw [he]
  cases e with
  | refused reason => exact ⟨_, rfl⟩
  | invalid issues => exact ⟨_, rfl⟩
  | crash kind message => exact absurd rfl (hr.refuses he kind message)

section Linebreaks

theorem mem_lineFeeds {f : Nat × LinebreakStyle} :
    ∀ {o : Nat} {before : Option Char} {cs : List Char}, f ∈ lineFeeds o before cs →
      o ≤ f.1 ∧ f.1 < o + cs.length
  | o, before, [], h => by simp [lineFeeds] at h
  | o, before, c :: cs, h => by
    rw [List.length_cons]
    unfold lineFeeds at h
    split_ifs at h
    · rcases List.mem_cons.1 h with rfl | h
      · exact ⟨Nat.le_refl o, by omega⟩
      · have := mem_lineFeeds h
        omega
    · have := mem_lineFeeds h
      omega

theorem exists_of_mem_reports {r : Report} :
    ∀ {feeds : List (Nat × LinebreakStyle)} {t : Tracker LinebreakStyle},
      r ∈ Linebreaks.reports t feeds → ∃ f ∈ feeds, r.place = .offset f.1
  | [], t, h => by simp [Linebreaks.reports] at h
  | (o, found) :: feeds, t, h => by
    unfold Linebreaks.reports at h
    rcases hcheck : t.check (some found) with ⟨_ | expected, t'⟩ <;> rw [hcheck] at h
    · obtain ⟨f, hf, hplace⟩ := exists_of_mem_reports h
      exact ⟨f, List.mem_cons_of_mem _ hf, hplace⟩
    · rcases List.mem_cons.1 h with rfl | h
      · exact ⟨(o, found), List.mem_cons_self, rfl⟩
      · obtain ⟨f, hf, hplace⟩ := exists_of_mem_reports h
        exact ⟨f, List.mem_cons_of_mem _ hf, hplace⟩

/-- Every line feed is within the text, so every report of one is. -/
theorem Linebreaks.check_within (preferred : Option LinebreakStyle) (d : Document) :
    (check preferred d).Within d.location.length := by
  refine ⟨rfl, fun r hr => ?_⟩
  obtain ⟨f, hf, hplace⟩ := exists_of_mem_reports hr
  have hlt := (mem_lineFeeds hf).2
  rw [hplace]
  refine .offset ?_
  rw [d.length_location, ← String.length_toList]
  omega

theorem Linebreaks.readOption_refuses {setting : Value} {e : OptionError}
    (h : readOption setting = .error e) (kind message : String) : e ≠ .crash kind message := by
  unfold readOption at h
  rcases hstyle : preference Value.style LinebreakStyle.all setting with e' | style <;>
    rw [hstyle] at h
  · cases h
    exact OptionError.noConfusion
  · cases h

theorem Linebreaks.rule_sound (serial : Nat) : (rule serial).Sound :=
  Rule.sound_make readOption_refuses fun preferred d _ => check_within preferred d

end Linebreaks

namespace BlankLines

/-- What the rule looks at: a node with a span, below another one that is not excepted, and the
next child of that, which is a block with a span. -/
theorem following?_eq_some_iff {o : BlankLineOptions} {v : Visit} {next : Node} :
    following? o v = some next
      ↔ ∃ parent index, v.parent = some parent ∧ v.index = some index ∧ v.node.span.isSome
        ∧ (o.exceptTightLists → parent.type ≠ tightContainer)
        ∧ parent.children[index + 1]? = some next ∧ next.type ∈ blockTypes
        ∧ next.span.isSome := by
  simp only [following?, bind, Option.bind_eq_some_iff, Option.ite_none_left_eq_some,
    Option.ite_none_right_eq_some, Option.some.injEq, Node.isGenerated,
    Bool.or_eq_true, Bool.and_eq_true, Bool.not_eq_true', decide_eq_true_eq, not_or, not_and,
    Bool.not_eq_true, Option.isNone_eq_false_iff, List.contains_iff_mem]
  constructor
  · rintro ⟨parent, hparent, index, hindex, ⟨hspan, hexcept⟩, _, hnext, ⟨hblock, hspan'⟩, rfl⟩
    exact ⟨parent, index, hparent, hindex, hspan, hexcept, hnext, hblock, hspan'⟩
  · rintro ⟨parent, index, hparent, hindex, hspan, hexcept, hnext, hblock, hspan'⟩
    exact ⟨parent, hparent, index, hindex, ⟨hspan, hexcept⟩, next, hnext, ⟨hblock, hspan'⟩, rfl⟩

/-- Two nodes whose spans have positions are compared by the lines of these. -/
theorem isAdjacent_eq_ok {d : Document} {before after : Node} {a b : Span} {p q : Position}
    (ha : before.span = some a) (hb : after.span = some b)
    (hp : d.location.toPosition a.stop = .ok p) (hq : d.location.toPosition b.start = .ok q) :
    isAdjacent d before after = .ok (q.line = p.line + 1) := by
  have hline : (some q.line = some (p.line + 1)) = (q.line = p.line + 1) := by
    rw [Option.some.injEq]
  simp only [isAdjacent, Document.startLine, Document.endLine, ha, hb, hp, hq, ← hline]
  rfl

/-- Over places where both nodes that are looked at have spans within the text, the check comes
to its end. -/
theorem findings_within {o : BlankLineOptions} {d : Document} :
    ∀ {vs : List Visit}, (∀ v ∈ vs, ∀ next, following? o v = some next →
        ∃ s r, v.node.span = some s ∧ s.stop ≤ d.location.length ∧ next.span = some r
          ∧ r.stop ≤ d.location.length) →
      (findings o d vs).Within d.location.length
  | [], _ => ⟨rfl, fun r hr => by cases hr⟩
  | v :: vs, h => by
    have ih := findings_within fun v' hv' => h v' (List.mem_cons_of_mem _ hv')
    unfold findings
    rcases hnext : following? o v with _ | next
    · exact ih
    · obtain ⟨s, r, hs, hs', hr, hr'⟩ := h v List.mem_cons_self next hnext
      obtain ⟨p, hp, -⟩ := Location.exists_toPosition d.inOrder hs'
      obtain ⟨q, hq, -⟩ := Location.exists_toPosition d.inOrder
        (Nat.le_trans r.start_le_stop hr')
      simp only [isAdjacent_eq_ok hs hr hp hq]
      rcases decide (q.line = p.line + 1)
      · exact ih
      · refine ⟨ih.ending, fun r' hr'' => ?_⟩
        rcases List.mem_cons.1 hr'' with rfl | hr''
        · exact .node hr hr' none
        · exact ih.reports r' hr''

theorem check_within (o : BlankLineOptions) {d : Document}
    (hd : d.tree.EndsBy d.location.length) : (check o d).Within d.location.length := by
  refine findings_within fun v hv next hnext => ?_
  obtain ⟨parent, index, hparent, hindex, hnode, -, hchild, -, hspan⟩ :=
    following?_eq_some_iff.1 hnext
  obtain ⟨s, hs⟩ := Option.isSome_iff_exists.1 hnode
  obtain ⟨r, hr⟩ := Option.isSome_iff_exists.1 hspan
  rw [d.visits_eq] at hv
  rcases Node.root_or_isBelow_of_mem_walk hv with rfl | ⟨path, m, i, hm, hi, hindex', hparent'⟩
  · cases hparent
  · obtain rfl : m = parent := Option.some.inj (hparent'.symm.trans hparent)
    exact ⟨s, r, hs, hd _ _ s (Node.follow?_snoc hm hi) hs, hr,
      hd _ _ r (Node.follow?_snoc hm hchild) hr⟩

theorem readOption_refuses {setting : Value} {e : OptionError}
    (h : readOption setting = .error e) (kind message : String) : e ≠ .crash kind message := by
  unfold readOption at h
  split at h
  · cases h
  · cases h
  · cases h
  · split at h
    · rename_i entries _
      rcases hrecord : readRecord entries with issues | o <;> rw [hrecord] at h
      · cases h
        exact OptionError.noConfusion
      · cases h
    · cases h
      exact OptionError.noConfusion

theorem rule_sound (serial : Nat) : (rule serial).Sound :=
  Rule.sound_make readOption_refuses fun o _ hd => check_within o hd

theorem configure_of_long {n : Int} (hn : ¬ isWritable n) (serial : Nat) :
    (rule serial).configure (.int n) = .error .integerTooLong := by
  have hrefused : (rule serial).configure (.int n) = .error (.ofRefused "no-missing-blank-lines"
      (.int n) "expected an options mapping, not int" [.int n]) := rfl
  rw [hrefused, RuleError.ofRefused_of_long _ _ (mt Value.isShowable_int.1 hn)]

end BlankLines

theorem sound_of_mem_builtIn {r : Rule} (h : r ∈ Registry.builtIn.rules) : r.Sound := by
  rcases List.mem_cons.1 h with rfl | h
  · exact Linebreaks.rule_sound 0
  · obtain rfl := List.mem_singleton.1 h
    exact BlankLines.rule_sound 1

end MarkdownLint
