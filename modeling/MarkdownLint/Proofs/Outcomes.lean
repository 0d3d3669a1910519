import MarkdownLint.Proofs.LoadedTree
import MarkdownLint.Proofs.SoundRules
import MarkdownLint.Run
import MarkdownLint.Yaml.Document
import Mathlib.Data.List.Forall2

/-!
# What a run comes to

Over a tree whose spans end within the text, a run of sound rules comes to one part for each entry
of the configuration (`runEntry_part`): the entry fails just if its rule is unknown or its setting
is refused, and what its rule reports has the marks of the entry and a place in the text.  The
rules at hand are sound, and the spans of a loaded tree do end within its text (`lint_builtIn`).

A refused setting is said to be malformed, unless an integer in it is too long to be shown
(`lint_long_setting`).
-/

namespace MarkdownLint

namespace Registry

/-- All rules of a registry are sound. -/
def Sound (g : Registry) : Prop :=
  ∀ r ∈ g.rules, r.Sound

theorem sound_builtIn : builtIn.Sound :=
  fun _ => sound_of_mem_builtIn

/-- An entry of a configuration cannot be run: its rule is unknown, its setting is malformed, or
it is on with an option that its rule does not take. -/
def Refuses (g : Registry) (id : String) (setting : Value) : Prop :=
  id ∉ g.available ∨ (∃ e, splitSetting id setting = .error e)
    ∨ ∃ rule severity option e, g.get id = .ok rule
      ∧ splitSetting id setting = .ok (.on severity option) ∧ rule.options option = .error e

/-- What the refusal of a setting shows: the setting, or else the option that it holds. -/
def refusedValue (id : String) (setting : Value) : Value :=
  match splitSetting id setting with
  | .ok (.on _ option) => option
  | _ => setting

/-- The kind of the error that refuses a setting by showing some value. -/
def refusalKind (shown : Value) : String :=
  if shown.isShowable then "MalformedConfigurationError" else "ValueError"

/-- What an entry of a configuration adds to the result over a text. -/
structure Part (g : Registry) (text : String) (id : String) (setting : Value)
    (failures : List RuleFailure) (diagnostics : List Diagnostic) : Prop where
  refused_iff : failures ≠ [] ↔ g.Refuses id setting
  length_le : failures.length ≤ 1
  failure : ∀ f ∈ failures, diagnostics = [] ∧ f.ruleId = id ∧ f.severity = .fatal
    ∧ f.errorType
      = if id ∈ g.available then refusalKind (refusedValue id setting) else "UnknownRuleError"
  diagnostic : ∀ x ∈ diagnostics, x.ruleId = some id ∧ x.source = some "marklint"
    ∧ (x.severity = .warning ∨ x.severity = .error)
    ∧ (∃ option, splitSetting id setting = .ok (.on x.severity option))
    ∧ Located (.ofText text) x.position x.range

variable {g : Registry}

theorem mem_available {id : String} : id ∈ g.available ↔ ∃ r ∈ g.rules, r.id = id := by
  rw [available, List.mem_mergeSort, List.mem_map]

theorem get_eq_ok {id : String} {r : Rule} (h : g.get id = .ok r) :
    r ∈ g.rules ∧ r.id = id ∧ id ∈ g.available := by
  unfold get at h
  rcases hfind : g.find? id with _ | r' <;> rw [hfind] at h
  · cases h
  · cases h
    have hr := List.mem_of_find?_eq_some hfind
    have hid := List.find?_some hfind
    rw [decide_eq_true_eq] at hid
    exact ⟨hr, hid, mem_available.2 ⟨r, hr, hid⟩⟩

theorem get_eq_error {id : String} {e : RuleError} (h : g.get id = .error e) :
    id ∉ g.available ∧ e = .unknownRule id g.available := by
  unfold get at h
  rcases hfind : g.find? id with _ | r <;> rw [hfind] at h
  · cases h
    refine ⟨fun hmem => ?_, rfl⟩
    obtain ⟨r, hr, hid⟩ := mem_available.1 hmem
    have hne := List.find?_eq_none.1 hfind r hr
    exact hne (decide_eq_true hid)
  · cases h

end Registry

section Settings

/-- What a setting can say: it is refused, or its rule is off, or on as a warning or an error. -/
inductive ReadsAs (id : String) (setting : Value) : Except RuleError Activation → Prop
  | refused (reason : String) :
    ReadsAs id setting (.error (.ofRefused id setting reason [setting]))
  | off : ReadsAs id setting (.ok .off)
  | on {severity : Severity} (h : severity = .warning ∨ severity = .error) (option : Value) :
    ReadsAs id setting (.ok (.on severity option))

theorem severityLevel_spec {level : Value} {severity : Severity}
    (h : severityLevel level = some (some severity)) :
    severity = .warning ∨ severity = .error := by
  unfold severityLevel at h
  split at h <;> cases h <;> simp

theorem RuleError.kind_ofRefused (id : String) (setting : Value) (reason : String) :
    (ofRefused id setting reason [setting]).kind = Registry.refusalKind setting := by
  rw [Registry.refusalKind]
  split_ifs with hshown
  · rw [ofRefused_of_isShowable id reason hshown]
    rfl
  · rw [ofRefused_of_long id reason hshown]
    rfl

/-- A message that shows a setting can show each of its items as well. -/
theorem RuleError.ofRefused_item {setting level : Value} {items : List Value}
    (hitems : setting.items? = some items) (hlevel : level ∈ items) (id reason : String) :
    ofRefused id setting reason [level, setting] = ofRefused id setting reason [setting] := by
  have hshown : setting.isShowable → level.isShowable := fun h =>
    Value.IsShowable.items hitems h level hlevel
  unfold ofRefused
  refine if_congr ?_ rfl rfl
  simpa using hshown

theorem activation_readsAs {setting level : Value} {items : List Value}
    (hitems : setting.items? = some items) (hmem : level ∈ items) (id : String) (option : Value) :
    ReadsAs id setting (activation id setting level option) := by
  unfold activation
  rcases hlevel : severityLevel level with _ | _ | severity
  · dsimp only
    rw [RuleError.ofRefused_item hitems hmem]
    exact .refused _
  · exact .off
  · exact .on (severityLevel_spec hlevel) option

theorem splitItems_readsAs {setting : Value} {items : List Value}
    (hitems : setting.items? = some items) (id : String) :
    ReadsAs id setting (splitItems id setting items) := by
  unfold splitItems
  split
  · exact activation_readsAs hitems List.mem_cons_self _ _
  · exact activation_readsAs hitems List.mem_cons_self _ _
  · exact .refused _

theorem splitSetting_readsAs (id : String) (setting : Value) :
    ReadsAs id setting (splitSetting id setting) := by
  unfold splitSetting
  split
  · exact .off
  · exact .on (.inl rfl) _
  · exact .on (.inl rfl) _
  · exact splitItems_readsAs rfl _
  · exact splitItems_readsAs rfl _
  · exact .on (.inl rfl) _

end Settings

section Entries

variable {r : Rule} {s : Sink} {setting : Value}

/-- A sound rule fails on a setting just if it does not take it, and then by refusing it. -/
theorem Rule.Sound.run (hr : r.Sound) (hs : s.document.tree.EndsBy s.document.location.length)
    (setting : Value) :
    (∃ e, r.options setting = .error e ∧ r.run s setting = (s, some e)
        ∧ e.kind = Registry.refusalKind setting)
      ∨ ∃ (v : Value) (xs : List Diagnostic), r.options setting = .ok v
        ∧ r.run s setting = ({ s with diagnostics := s.diagnostics ++ xs }, none)
        ∧ ∀ x ∈ xs, s.Marks x := by
  unfold Rule.run options
  rcases hprepare : r.prepare setting with e | prepared
  · left
    obtain ⟨reason, hreason⟩ := hr.exists_refused hprepare
    rw [hreason]
    exact ⟨_, rfl, rfl, RuleError.kind_ofRefused _ _ _⟩
  · right
    obtain ⟨xs, hxs, -, hall⟩ := Findings.record_of_within (hr.within hprepare s.document hs)
    unfold configure
    rw [hprepare]
    refine ⟨prepared.option, xs, rfl, ?_, hall⟩
    simp only [Except.mapError, hxs]
    rfl

end Entries

namespace Registry

variable {g : Registry} {text : String} {id : String} {setting : Value}

theorem part_failed {e : RuleError} (h : g.Refuses id setting)
    (hkind : e.kind
      = if id ∈ g.available then refusalKind (refusedValue id setting) else "UnknownRuleError") :
    g.Part text id setting ((EntryOutcome.failed e).failures id)
      (EntryOutcome.failed e).diagnostics := by
  refine ⟨⟨fun _ => h, fun _ => List.cons_ne_nil _ _⟩, Nat.le_refl 1, fun f hf => ?_,
    fun x hx => by cases hx⟩
  obtain rfl := List.mem_singleton.1 hf
  exact ⟨rfl, rfl, rfl, hkind⟩

/-- An entry is not refused if its rule is known and takes the option of the setting, should it be
on. -/
theorem not_refuses {r : Rule} {a : Activation} (hget : g.get id = .ok r)
    (hsplit : splitSetting id setting = .ok a)
    (hoption : ∀ severity option, a = .on severity option → ∃ v, r.options option = .ok v) :
    ¬ g.Refuses id setting := by
  rintro (h | ⟨e, he⟩ | ⟨r', severity, option, e, hget', hon, he⟩)
  · exact h (get_eq_ok hget).2.2
  · rw [hsplit] at he
    cases he
  · rw [hsplit] at hon
    rw [hget] at hget'
    cases hon
    cases hget'
    obtain ⟨v, hv⟩ := hoption severity option rfl
    rw [hv] at he
    cases he

theorem part_passed (hrefuses : ¬ g.Refuses id setting) {xs : List Diagnostic}
    (hxs : ∀ x ∈ xs, x.ruleId = some id ∧ x.source = some "marklint"
      ∧ (x.severity = .warning ∨ x.severity = .error)
      ∧ (∃ option, splitSetting id setting = .ok (.on x.severity option))
      ∧ Located (.ofText text) x.position x.range) :
    g.Part text id setting [] xs :=
  ⟨⟨fun h => absurd rfl h, fun h => absurd h hrefuses⟩, Nat.zero_le 1, (fun f hf => by cases hf),
    hxs⟩

/-- An entry run over a tree whose spans end within the text. -/
theorem runEntry_part (hg : g.Sound) {d : Document} (hd : d.tree.EndsBy d.text.length)
    (id : String) (setting : Value) :
    g.Part d.text id setting ((g.runEntry d id setting).failures id)
      (g.runEntry d id setting).diagnostics := by
  rw [← d.length_location] at hd
  unfold runEntry
  rcases hget : g.get id with e | r
  · obtain ⟨hid, rfl⟩ := get_eq_error hget
    exact part_failed (.inl hid) (by rw [if_neg hid]; rfl)
  · obtain ⟨hr, hid, havailable⟩ := get_eq_ok hget
    have hreads := splitSetting_readsAs id setting
    generalize hsplit : splitSetting id setting = split at hreads
    cases hreads with
    | refused reason =>
      refine part_failed (.inr (.inl ⟨_, hsplit⟩)) ?_
      rw [if_pos havailable, RuleError.kind_ofRefused, refusedValue, hsplit]
    | off =>
      have hrefuses : ¬ g.Refuses id setting :=
        not_refuses hget hsplit fun severity option h => by cases h
      exact part_passed hrefuses fun x hx => by cases hx
    | on hseverity option =>
      rename_i severity
      obtain ⟨e, he, hrun, hkind⟩ | ⟨v, xs, hv, hrun, hxs⟩ := (hg r hr).run
        (s := { document := d, ruleId := some r.id, source := some sourceName,
                severity := severity }) hd option
      · simp only [hrun]
        exact part_failed (.inr (.inr ⟨r, severity, option, e, hget, hsplit, he⟩))
          (by rw [hkind, if_pos havailable, refusedValue, hsplit])
      · simp only [hrun]
        have hrefuses : ¬ g.Refuses id setting :=
          not_refuses hget hsplit fun severity' option' h => by
            cases h
            exact ⟨v, hv⟩
        refine part_passed hrefuses fun x hx => ?_
        obtain ⟨hxid, hsource, hxseverity, hlocated⟩ :=
          hxs x (by simpa [EntryOutcome.diagnostics] using hx)
        rw [← hid, ← d.location_eq]
        refine ⟨hxid, hsource, ?_, ⟨option, ?_⟩, hlocated⟩
        · rw [hxseverity]
          exact hseverity
        · rw [hxseverity, hid]
          exact hsplit

theorem lint_singleton (d : Document) (id : String) (setting : Value) :
    g.lint d (some [(id, setting)])
      = ⟨(g.runEntry d id setting).diagnostics, (g.runEntry d id setting).failures id⟩ := by
  simp only [lint, outcomes, LintResult.ofOutcomes, Option.getD_some, List.map_cons, List.map_nil,
    List.flatMap_singleton]

theorem lint_of_failed {d : Document} {e : RuleError}
    (h : g.runEntry d id setting = .failed e) :
    g.lint d (some [(id, setting)])
      = ⟨[], [{ ruleId := id, errorType := e.kind, message := e.message }]⟩ := by
  rw [lint_singleton, h]
  rfl

/-- A run puts together what its entries come to. -/
theorem lint_of_sound (hg : g.Sound) {d : Document} (hd : d.tree.EndsBy d.text.length)
    (c : Option Configuration) :
    ∃ parts : List (List RuleFailure × List Diagnostic),
      List.Forall₂ (fun entry part => g.Part d.text entry.1 entry.2 part.1 part.2)
        (c.getD g.defaultConfiguration) parts
      ∧ g.lint d c = ⟨parts.flatMap (·.2), parts.flatMap (·.1)⟩ := by
  refine ⟨(c.getD g.defaultConfiguration).map fun entry =>
    ((g.runEntry d entry.1 entry.2).failures entry.1, (g.runEntry d entry.1 entry.2).diagnostics),
    ?_, ?_⟩
  · rw [List.forall₂_map_right_iff]
    exact List.forall₂_same.2 fun entry _ => runEntry_part hg hd entry.1 entry.2
  · unfold lint outcomes LintResult.ofOutcomes
    simp only [List.flatMap_map]

/-- Over a tree whose spans end within the text, as those of a loaded tree do, a run of the rules
at hand comes to a part for each entry: it fails just if it is refused, as unknown or malformed
unless the refusal cannot show the setting, and each of its diagnostics has the marks of the entry
and the positions of offsets in the text. -/
theorem lint_builtIn (text : String) :
    (∀ (σ : Type) (l : Loader σ) (data : Value) (t : LoadedTree),
      l.loadValue data (some text) = .ok t → t.root.EndsBy text.length)
    ∧ (∀ (σ : Type) (l : Loader σ) (content : String) (t : LoadedTree),
      (l.loadText content (some text)).1 = .ok t → t.root.EndsBy text.length)
    ∧ ∀ tree : Node, tree.EndsBy text.length → ∀ c : Option Configuration,
      ∃ parts : List (List RuleFailure × List Diagnostic),
        List.Forall₂ (fun entry part => builtIn.Part text entry.1 entry.2 part.1 part.2)
          (c.getD builtIn.defaultConfiguration) parts
        ∧ builtIn.lint { text, tree } c = ⟨parts.flatMap (·.2), parts.flatMap (·.1)⟩ := by
  refine ⟨fun _ l data t h => Loader.endsBy_of_loadValue h,
    fun _ l content t h => Loader.endsBy_of_loadText h, fun tree h c => ?_⟩
  exact lint_of_sound (d := { text, tree }) sound_builtIn h c

/-- Two paragraphs on adjacent lines, under an entry that reports them, one with a bad option and
one with an unknown rule. -/
theorem lint_builtIn_loaded :
    ∃ t : LoadedTree, Yaml.loader.loadValue (.map [(.text "type", .text "root"),
        (.text "children", .list [
          .map [(.text "type", .text "paragraph"),
            (.text "position", .map [(.text "start", .map [(.text "offset", .int 0)]),
              (.text "end", .map [(.text "offset", .int 1)])])],
          .map [(.text "type", .text "paragraph"),
            (.text "position", .map [(.text "start", .map [(.text "offset", .int 2)]),
              (.text "end", .map [(.text "offset", .int 3)])])]])]) (some "a\nb") = .ok t
      ∧ ∃ parts : List (List RuleFailure × List Diagnostic),
        List.Forall₂ (fun entry part => builtIn.Part "a\nb" entry.1 entry.2 part.1 part.2)
          [("no-missing-blank-lines", .list [.text "error"]), ("linebreak-style", .int 7),
            ("no-such-rule", .null)] parts
        ∧ builtIn.lint { text := "a\nb", tree := t.root }
            (some [("no-missing-blank-lines", .list [.text "error"]), ("linebreak-style", .int 7),
              ("no-such-rule", .null)])
          = ⟨parts.flatMap (·.2), parts.flatMap (·.1)⟩ := by
  obtain ⟨hvalue, -, hlint⟩ := lint_builtIn "a\nb"
  refine ⟨⟨⟨0, "root", [⟨1, "paragraph", [], some ⟨0, 1, by decide⟩, none, []⟩,
    ⟨2, "paragraph", [], some ⟨2, 3, by decide⟩, none, []⟩], none, none, []⟩, #[]⟩,
    (and_iff_left_of_imp fun h => ?_).2 rfl⟩
  exact hlint _ (hvalue _ _ _ _ h) (some _)

/-- An integer for a setting, with so many digits that the refusal cannot show it: the entry fails,
and it is not said to be malformed. -/
theorem lint_long_setting :
    let d : Document := { text := "a\nb", tree := ⟨0, "root", [], none, none, []⟩ }
    d.tree.EndsBy d.text.length
    ∧ builtIn.Refuses "no-missing-blank-lines" (.int (10 ^ mostDigits : Nat))
    ∧ ∃ f, builtIn.lint d (some [("no-missing-blank-lines", .int (10 ^ mostDigits : Nat))])
        = ⟨[], [f]⟩ ∧ f.errorType = "ValueError" := by
  intro d
  have hconfigure := BlankLines.configure_of_long not_isWritable_tenPow 1
  generalize ((10 ^ mostDigits : Nat) : Int) = n at hconfigure ⊢
  have hget : builtIn.get "no-missing-blank-lines" = .ok (BlankLines.rule 1) := rfl
  have hoptions : (BlankLines.rule 1).options (.int n) = .error .integerTooLong := by
    rw [Rule.options, hconfigure]
    rfl
  have hfailed : builtIn.runEntry d "no-missing-blank-lines" (.int n)
      = .failed .integerTooLong := by
    simp only [runEntry, hget, splitSetting, Rule.run, hconfigure]
  exact ⟨Node.endsBy_mk_iff.2 ⟨fun _ h => (by cases h), fun _ h => (by cases h)⟩,
    .inr (.inr ⟨_, .warning, .int n, _, hget, rfl, hoptions⟩), _, lint_of_failed hfailed, rfl⟩

end Registry

end MarkdownLint
