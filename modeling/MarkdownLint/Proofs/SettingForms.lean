import MarkdownLint.Proofs.RunPairs

/-!
# Forms of a setting

A setting asks for an option at a severity in one of several forms: as the option alone, or in a
list or a tuple behind a name or a number for the severity (`Asks`).  What the severity layer makes
of it is the same for all forms (`splitSetting_of_asks`), but for the bare truth value, which is
taken for no option at all; the rules at hand take the two for the same (`takesTrue_of_mem`).  A
rule does not see its severity, so another one changes the marks of its diagnostics and no more
(`outcome_withSeverity`).

A list or a tuple that is none of these forms is refused.  What the failure says depends on whether
the setting can be shown (`refusedFailure`), as for all settings that are refused.
-/

namespace MarkdownLint

def Diagnostic.withSeverity (severity : Severity) (x : Diagnostic) : Diagnostic :=
  { x with severity }

/-- A result with another severity on all its diagnostics. -/
def LintResult.withSeverity (severity : Severity) (r : LintResult) : LintResult :=
  ⟨r.diagnostics.map (·.withSeverity severity), r.failures⟩

/-- The failure of an entry whose setting is refused: it is malformed for a reason, unless an
integer in it is too long to be shown. -/
def refusedFailure (id : String) (setting : Value) (reason : String) : RuleFailure :=
  if setting.isShowable then
    { ruleId := id, errorType := "MalformedConfigurationError",
      message := "Invalid setting " ++ setting.render ++ " for rule '" ++ id ++ "': " ++ reason }
  else { ruleId := id, errorType := "ValueError", message := tooManyDigitsText "" }

/-- The names and the numbers of the severities, where off is none. -/
inductive Level : Option Severity → Value → Prop
  | off : Level none (.text "off")
  | zero : Level none (.int 0)
  | on : Level (some .warning) (.text "on")
  | warn : Level (some .warning) (.text "warn")
  | one : Level (some .warning) (.int 1)
  | error : Level (some .error) (.text "error")
  | two : Level (some .error) (.int 2)

/-- The settings that ask for an option at a severity. -/
inductive Asks : Option Severity → Value → Value → Prop
  | bare {option : Value} (items : option.items? = none) (ne : option ≠ .bool false) :
    Asks (some .warning) option option
  | alone {severity : Option Severity} {level setting : Value}
      (items : setting.items? = some [level]) (level : Level severity level) :
    Asks severity .null setting
  | behind {severity : Option Severity} {level option setting : Value}
      (items : setting.items? = some [level, option]) (level : Level severity level) :
    Asks severity option setting
  | disabled {option : Value} : Asks none option (.bool false)

section Splitting

variable {severity : Option Severity} {level option setting : Value} {items : List Value}

theorem severityLevel_eq_some_iff : severityLevel level = some severity ↔ Level severity level := by
  constructor
  · intro h
    unfold severityLevel at h
    split at h <;> cases h <;> constructor
  · rintro (_ | _ | _ | _ | _ | _ | _) <;> rfl

theorem severityLevel_eq_none (h : ∀ severity, ¬ Level severity level) :
    severityLevel level = none := by
  rcases hlevel : severityLevel level with _ | severity
  · rfl
  · exact absurd (severityLevel_eq_some_iff.1 hlevel) (h severity)

theorem splitSetting_of_items (h : setting.items? = some items) (id : String) :
    splitSetting id setting = splitItems id setting items := by
  unfold Value.items? at h
  split at h <;> cases h <;> rfl

/-- What becomes of a severity and an option. -/
def Activation.of (option : Value) : Option Severity → Activation
  | none => .off
  | some severity => .on severity option

theorem activation_of_level (h : Level severity level) (id : String) (setting option : Value) :
    activation id setting level option = .ok (.of option severity) := by
  unfold activation
  rw [severityLevel_eq_some_iff.2 h]
  rcases severity with _ | severity <;> rfl

theorem splitSetting_of_bare (hitems : option.items? = none) (hne : option ≠ .bool false)
    (htrue : option ≠ .bool true) (id : String) :
    splitSetting id option = .ok (.on .warning option) := by
  unfold splitSetting
  split
  · exact absurd rfl hne
  · exact absurd rfl htrue
  · rfl
  · cases hitems
  · cases hitems
  · rfl

/-- All forms of a setting are split alike, but for the truth value that only says to be on. -/
theorem splitSetting_of_asks (h : Asks severity option setting) (id : String) :
    splitSetting id setting = .ok (.of option severity)
      ∨ option = .bool true ∧ severity = some .warning
        ∧ splitSetting id setting = .ok (.on .warning .null) := by
  cases h with
  | bare hitems hne =>
    by_cases htrue : option = .bool true
    · subst htrue
      exact .inr ⟨rfl, rfl, rfl⟩
    · exact .inl (splitSetting_of_bare hitems hne htrue id)
  | alone hitems hlevel =>
    left
    rw [splitSetting_of_items hitems, splitItems, activation_of_level hlevel]
  | behind hitems hlevel =>
    left
    rw [splitSetting_of_items hitems, splitItems, activation_of_level hlevel]
  | disabled => exact .inl rfl

end Splitting

section Severities

/-- A rule reads the truth value that only says to be on as no option. -/
def Rule.TakesTrue (r : Rule) : Prop :=
  r.configure (.bool true) = r.configure .null

theorem takesTrue_of_mem {r : Rule} (h : r ∈ Registry.builtIn.rules) : r.TakesTrue := by
  rcases List.mem_cons.1 h with rfl | h
  · rfl
  · obtain rfl := List.mem_singleton.1 h
    rfl

theorem Rule.outcome_withSeverity (r : Rule) (d : Document) (option : Value)
    (severity severity' : Severity) :
    r.outcome (r.sink d severity') option
      = (r.outcome (r.sink d severity) option).map (·.withSeverity severity') := by
  refine outcome_of_matches (by simp [sink]) fun prepared _ => ⟨List.forall₂_same.2 fun p _ => ?_,
    rfl⟩
  unfold Sink.Matches Sink.diagnose
  simp only [sink]
  rcases d.place p.place <;> rfl

theorem Rule.severity_of_mem_outcome {r : Rule} {d : Document} {option : Value}
    {severity : Severity} {x : Diagnostic}
    (h : x ∈ (r.outcome (r.sink d severity) option).diagnostics) : x.severity = severity := by
  -- The outcome is its own with the severity of the sink put on all diagnostics.
  rw [outcome_withSeverity r d option severity severity] at h
  rcases hr : r.outcome (r.sink d severity) option with e | _ | ds <;> rw [hr] at h
  · cases h
  · cases h
  · obtain ⟨y, -, rfl⟩ := List.mem_map.1 h
    rfl

end Severities

namespace Registry

variable {g : Registry} {d : Document} {id : String} {r : Rule} {severity : Option Severity}
  {option setting : Value} {items : List Value}

theorem runEntry_of_asks (hget : g.get id = .ok r) (htrue : r.TakesTrue)
    (h : Asks severity option setting) :
    g.runEntry d id setting
      = severity.elim .off fun severity => r.outcome (r.sink d severity) option := by
  rcases splitSetting_of_asks h id with hsplit | ⟨rfl, rfl, hsplit⟩
  · rcases severity with _ | severity
    · simp only [runEntry, hget, hsplit, Activation.of, Option.elim]
    · exact runEntry_on hget hsplit
  · rw [runEntry_on hget hsplit, Option.elim_some]
    unfold Rule.outcome Rule.run
    rw [htrue]

theorem lint_withSeverity (hget : g.get id = .ok r) (htrue : r.TakesTrue) {setting' : Value}
    {severity severity' : Severity} (h : Asks (some severity) option setting)
    (h' : Asks (some severity') option setting') :
    g.lint d (some [(id, setting')])
      = (g.lint d (some [(id, setting)])).withSeverity severity' := by
  rw [lint_singleton, lint_singleton, runEntry_of_asks hget htrue h,
    runEntry_of_asks hget htrue h']
  rw [Option.elim_some, Option.elim_some, r.outcome_withSeverity d option severity severity']
  rcases r.outcome (r.sink d severity) option with e | _ | ds <;> rfl

theorem lint_refused {reason : String} (hget : g.get id = .ok r)
    (hsplit : splitSetting id setting = .error (.ofRefused id setting reason [setting])) :
    g.lint d (some [(id, setting)]) = ⟨[], [refusedFailure id setting reason]⟩ := by
  have hfailed : g.runEntry d id setting = .failed (.ofRefused id setting reason [setting]) := by
    simp only [runEntry, hget, hsplit]
  rw [lint_of_failed hfailed, refusedFailure]
  split_ifs with hshown
  · rw [RuleError.ofRefused_of_isShowable id reason hshown]
    rfl
  · rw [RuleError.ofRefused_of_long id reason hshown]
    rfl

theorem splitItems_of_length (h : items.length ≠ 1) (h' : items.length ≠ 2) :
    splitItems id setting items
      = .error (.ofRefused id setting "expected [severity] or [severity, option]" [setting]) := by
  unfold splitItems
  split
  · exact absurd rfl h
  · exact absurd rfl h'
  · rfl

theorem splitItems_of_noLevel {level : Value} {rest : List Value}
    (hitems : setting.items? = some (level :: rest)) (hrest : rest.length ≤ 1)
    (h : ∀ severity, ¬ Level severity level) :
    splitItems id setting (level :: rest)
      = .error (.ofRefused id setting ("unknown severity " ++ level.render) [setting]) := by
  have hactivation : ∀ option, activation id setting level option
      = .error (.ofRefused id setting ("unknown severity " ++ level.render) [setting]) := by
    intro option
    unfold activation
    rw [severityLevel_eq_none h]
    exact congrArg _ (RuleError.ofRefused_item hitems List.mem_cons_self _ _)
  rcases rest with _ | ⟨option, _ | ⟨_, rest⟩⟩
  · exact hactivation .null
  · exact hactivation option
  · simp at hrest

theorem lint_of_noLevel {level : Value} {rest : List Value} (hget : g.get id = .ok r)
    (hitems : setting.items? = some (level :: rest)) (hrest : rest.length ≤ 1)
    (h : ∀ severity, ¬ Level severity level) :
    g.lint d (some [(id, setting)])
      = ⟨[], [refusedFailure id setting ("unknown severity " ++ level.render)]⟩ := by
  refine lint_refused hget ?_
  rw [splitSetting_of_items hitems]
  exact splitItems_of_noLevel hitems hrest h

theorem exists_get_of_mem (h : id ∈ g.available) : ∃ r ∈ g.rules, g.get id = .ok r := by
  rcases hget : g.get id with e | r
  · exact absurd h (get_eq_error hget).1
  · exact ⟨r, (get_eq_ok hget).1, rfl⟩

/-- For a rule at hand, all settings that ask for one option at one severity come to the same, at
another severity the diagnostics differ in that alone, and one that is off comes to nothing.  A list
or a tuple of a wrong length, or whose first item is no severity, comes to one failure, which says
that it is malformed if it can be shown. -/
theorem lint_settingForms (d : Document) (id : String) (hid : id ∈ builtIn.available) :
    (∀ severity option setting setting',
      Asks severity option setting → Asks severity option setting' →
        builtIn.lint d (some [(id, setting)]) = builtIn.lint d (some [(id, setting')]))
    ∧ (∀ option setting setting',
      Asks (some .warning) option setting → Asks (some .error) option setting' →
        builtIn.lint d (some [(id, setting')])
            = (builtIn.lint d (some [(id, setting)])).withSeverity .error
          ∧ ∀ x ∈ (builtIn.lint d (some [(id, setting)])).diagnostics, x.severity = .warning)
    ∧ (∀ option setting, Asks none option setting → builtIn.lint d (some [(id, setting)]) = {})
    ∧ (∀ setting items, setting.items? = some items → items.length ≠ 1 → items.length ≠ 2 →
      builtIn.lint d (some [(id, setting)])
        = ⟨[], [refusedFailure id setting "expected [severity] or [severity, option]"]⟩)
    ∧ ∀ setting level rest, setting.items? = some (level :: rest) → rest.length ≤ 1 →
      (∀ severity, ¬ Level severity level) →
      builtIn.lint d (some [(id, setting)])
        = ⟨[], [refusedFailure id setting ("unknown severity " ++ level.render)]⟩ := by
  obtain ⟨r, hr, hget⟩ := exists_get_of_mem hid
  have htrue : r.TakesTrue := takesTrue_of_mem hr
  refine ⟨fun severity option setting setting' h h' => ?_, fun option setting setting' h h' => ?_,
    fun option setting h => ?_, fun setting items hitems hone htwo => ?_,
    fun setting level rest hitems hrest hlevel => ?_⟩
  · rw [lint_singleton, lint_singleton, runEntry_of_asks hget htrue h,
      runEntry_of_asks hget htrue h']
  · refine ⟨lint_withSeverity hget htrue h h', fun x hx => ?_⟩
    rw [lint_singleton, runEntry_of_asks hget htrue h] at hx
    exact Rule.severity_of_mem_outcome hx
  · rw [lint_singleton, runEntry_of_asks hget htrue h]
    rfl
  · refine lint_refused hget ?_
    rw [splitSetting_of_items hitems]
    exact splitItems_of_length hone htwo
  · exact lint_of_noLevel hget hitems hrest hlevel

/-- A text with a line break of each style, and the setting that asks for one of them. -/
theorem lint_settingForms_unix :
    ∃ d : Document, d = { text := "a\r\nb\n", tree := ⟨0, "root", [], none, none, []⟩ }
      ∧ "linebreak-style" ∈ builtIn.available
      ∧ Asks (some .warning) (.text "unix") (.text "unix")
      ∧ Asks (some .warning) (.text "unix") (.tuple [.int 1, .text "unix"])
      ∧ Asks (some .error) (.text "unix") (.list [.text "error", .text "unix"])
      ∧ builtIn.lint d (some [("linebreak-style", .text "unix")])
        = builtIn.lint d (some [("linebreak-style", .tuple [.int 1, .text "unix"])])
      ∧ builtIn.lint d (some [("linebreak-style", .list [.text "error", .text "unix"])])
        = (builtIn.lint d (some [("linebreak-style", .text "unix")])).withSeverity .error
      ∧ builtIn.lint d (some [("linebreak-style", .list [.int 0, .text "unix"])]) = {}
      ∧ (∃ f, builtIn.lint d (some [("linebreak-style", .tuple [])]) = ⟨[], [f]⟩)
      ∧ ∃ f, builtIn.lint d (some [("linebreak-style", .list [.bool true, .text "unix"])])
        = ⟨[], [f]⟩ := by
  refine ⟨_, rfl, ?_⟩
  generalize Document.mk _ _ _ _ _ _ = d
  have hid : "linebreak-style" ∈ builtIn.available :=
    mem_available.2 ⟨_, List.mem_cons_self, rfl⟩
  have hbare : Asks (some .warning) (.text "unix") (.text "unix") := .bare rfl Value.noConfusion
  have hwarn : Asks (some .warning) (.text "unix") (.tuple [.int 1, .text "unix"]) :=
    .behind rfl .one
  have herror : Asks (some .error) (.text "unix") (.list [.text "error", .text "unix"]) :=
    .behind rfl .error
  obtain ⟨hsame, hother, hoff, hlength, hlevel⟩ := lint_settingForms d "linebreak-style" hid
  exact ⟨hid, hbare, hwarn, herror, hsame _ _ _ _ hbare hwarn, (hother _ _ _ hbare herror).1,
    hoff (.text "unix") _ (.behind rfl .zero), ⟨_, hlength _ [] rfl (by decide) (by decide)⟩,
    ⟨_, hlevel _ (.bool true) [.text "unix"] rfl (by decide) fun _ h => by cases h⟩⟩

/-- An integer that is no severity, with so many digits that the refusal cannot show it: the one
failure does not say that the setting is malformed. -/
theorem lint_settingForms_long :
    let d : Document := { text := "a\nb", tree := ⟨0, "root", [], none, none, []⟩ }
    let n : Int := (10 ^ mostDigits : Nat)
    (∀ severity, ¬ Level severity (.int n))
    ∧ ∃ f, builtIn.lint d (some [("linebreak-style", .list [.int n])]) = ⟨[], [f]⟩
      ∧ f.errorType = "ValueError" := by
  intro d n
  have hn : ¬ isWritable n := not_isWritable_tenPow
  clear_value n
  have hlevel : ∀ severity, ¬ Level severity (.int n) := by
    rintro _ (_ | _ | _ | _ | _)
    all_goals exact hn (by decide +kernel)
  have hlong : ¬ (Value.list [.int n]).IsShowable := fun h =>
    hn (Value.isShowable_int.1 (h.items rfl _ List.mem_cons_self))
  have hlint : builtIn.lint d (some [("linebreak-style", .list [.int n])])
      = ⟨[], [refusedFailure "linebreak-style" (.list [.int n])
        ("unknown severity " ++ (Value.int n).render)]⟩ :=
    lint_of_noLevel (r := Linebreaks.rule 0) rfl rfl (Nat.zero_le 1) hlevel
  exact ⟨hlevel, _, hlint, congrArg RuleFailure.errorType (if_neg hlong)⟩

end Registry

end MarkdownLint
