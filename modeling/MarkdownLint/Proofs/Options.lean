import MarkdownLint.Proofs.Entries
import MarkdownLint.Proofs.Loading
import MarkdownLint.Proofs.SoundRules

/-!
# Options

The rules at hand each read their option from the settings of a small grammar, `Linebreaks.Means`
and `BlankLines.Means`.  A setting is compared with the name of a style as a text, so only that text
and the style itself are equal to it (`Value.same_iff_asText?`, `Value.asText?_eq_name_iff`).  A
mapping has no entry that is an issue just if all its entries are under the key that counts
(`BlankLines.extraIssues_eq_nil_iff`), and as keys are different there is then one at most.  All
other settings are refused before anything is checked (`Rule.Sound.takes`), as malformed unless an
integer in them is too long to be shown (`options_long`).
-/

namespace MarkdownLint

/-- The values that settings are made of.  The keys of a mapping are texts, and different. -/
inductive IsSetting : Value → Prop
  | null : IsSetting .null
  | bool (b : Bool) : IsSetting (.bool b)
  | int (n : Int) : IsSetting (.int n)
  | float (x : Double) : IsSetting (.float x)
  | text (s : String) : IsSetting (.text s)
  | style (s : LinebreakStyle) : IsSetting (.style s)
  | blankLines (o : BlankLineOptions) : IsSetting (.blankLines o)
  | list {items : List Value} (items_settings : ∀ v ∈ items, IsSetting v) : IsSetting (.list items)
  | tuple {items : List Value} (items_settings : ∀ v ∈ items, IsSetting v) :
    IsSetting (.tuple items)
  | mapping {v : Value} {entries : List (Value × Value)} (entries_eq : v.entries? = some entries)
      (texts : ∀ e ∈ entries, ∃ key, e.1 = .text key) (nodup : (entries.map (·.1)).Nodup)
      (values_settings : ∀ e ∈ entries, IsSetting e.2) : IsSetting v

theorem IsSetting.nodup_of_entries {v : Value} {entries : List (Value × Value)}
    (h : IsSetting v) (hentries : v.entries? = some entries) : (entries.map (·.1)).Nodup := by
  cases h with
  | mapping hentries' _ hnodup _ =>
    obtain rfl := Option.some.inj (hentries.symm.trans hentries')
    exact hnodup
  | _ => cases hentries

/-- What a setting asks of the rule on line breaks: consistency, or a style by name or itself. -/
inductive Linebreaks.Means : Value → Option LinebreakStyle → Prop
  | null : Means .null none
  | yes : Means (.bool true) none
  | consistent : Means (.text consistent) none
  | name (style : LinebreakStyle) : Means (.text style.name) (some style)
  | style (style : LinebreakStyle) : Means (.style style) (some style)

/-- What a setting asks of the rule on blank lines: the defaults, the options themselves, or those
with the one entry of a mapping, under one of two keys. -/
inductive BlankLines.Means : Value → BlankLineOptions → Prop
  | null : Means .null ⟨false⟩
  | yes : Means (.bool true) ⟨false⟩
  | options (o : BlankLineOptions) : Means (.blankLines o) o
  | empty {v : Value} (entries : v.entries? = some []) : Means v ⟨false⟩
  | entry {v : Value} {key : String} (mem : key ∈ ["exceptTightLists", "except_tight_lists"])
      {b : Bool} (entries : v.entries? = some [(.text key, .bool b)]) : Means v ⟨b⟩

/-- A rule takes a setting for the option that it means.  One that means none is refused, and a sink
is left as it was: it is malformed for some reason, if all its integers can be shown. -/
structure Rule.Takes {α : Type} (r : Rule) (means : Value → α → Prop) (toValue : α → Value)
    (setting : Value) : Prop where
  options_iff : ∀ v, r.options setting = .ok v ↔ ∃ option, means setting option ∧ v = toValue option
  refuses : (∀ option, ¬ means setting option) → setting.IsShowable →
    ∃ reason, r.options setting = .error (.malformed r.id setting reason)
      ∧ ∀ s : Sink, r.run s setting = (s, some (.malformed r.id setting reason))
  long : (∀ option, ¬ means setting option) → ¬ setting.IsShowable →
    r.options setting = .error .integerTooLong
      ∧ ∀ s : Sink, r.run s setting = (s, some .integerTooLong)

section Taking

variable {α : Type} {toValue : α → Value} {setting v : Value}

theorem Rule.options_make {serial : Nat} {id description : String}
    {readOption : Value → Except OptionError α} {check : α → Document → Findings} :
    (make serial id description readOption toValue check).options setting = .ok v
      ↔ ∃ option, readOption setting = .ok option ∧ v = toValue option := by
  simp only [options, configure, make, except_map_eq_ok_iff, mapError_eq_ok_iff]
  constructor
  · rintro ⟨_, ⟨option, hoption, rfl⟩, rfl⟩
    exact ⟨option, hoption, rfl⟩
  · rintro ⟨option, hoption, rfl⟩
    exact ⟨_, ⟨option, hoption, rfl⟩, rfl⟩

theorem Rule.Sound.exists_refused_of_options {r : Rule} (hr : r.Sound)
    (hoptions : ∀ v, r.options setting ≠ .ok v) :
    ∃ reason, r.options setting = .error (.ofRefused r.id setting reason [setting])
      ∧ ∀ s : Sink, r.run s setting = (s, some (.ofRefused r.id setting reason [setting])) := by
  rcases hprepare : r.prepare setting with e | prepared
  · obtain ⟨reason, hreason⟩ := hr.exists_refused hprepare
    exact ⟨reason, by rw [options, hreason]; rfl, fun s => by rw [run, hreason]⟩
  · refine absurd ?_ (hoptions prepared.option)
    rw [options, configure, hprepare]
    rfl

/-- A sound rule whose options are those that a setting means refuses it if it means none. -/
theorem Rule.Sound.takes {r : Rule} (hr : r.Sound) {means : Value → α → Prop}
    (hoptions : ∀ v, r.options setting = .ok v
      ↔ ∃ option, means setting option ∧ v = toValue option) :
    r.Takes means toValue setting := by
  have hrefused (hnone : ∀ option, ¬ means setting option) :=
    hr.exists_refused_of_options fun v hv => by
      obtain ⟨option, hmeans, -⟩ := (hoptions v).1 hv
      exact hnone option hmeans
  refine ⟨hoptions, fun hnone hshown => ?_, fun hnone hlong => ?_⟩
  · obtain ⟨reason, hreason⟩ := hrefused hnone
    rw [RuleError.ofRefused_of_isShowable _ _ hshown] at hreason
    exact ⟨reason, hreason⟩
  · obtain ⟨reason, hreason⟩ := hrefused hnone
    rwa [RuleError.ofRefused_of_long _ _ hlong] at hreason

end Taking

namespace Value

/-- Only what is a text itself is equal to a text. -/
theorem same_iff_asText? {v w : Value} {s : String} (hw : w.asText? = some s) :
    v.same w = true ↔ v.asText? = some s := by
  cases w <;> cases hw <;> cases v <;> simp [same, sameScalar, number?, asText?]

theorem asText?_eq_name_iff {v : Value} {style : LinebreakStyle} :
    v.asText? = some style.name ↔ v = .text style.name ∨ v = .style style := by
  cases v with
  | style s => cases s <;> cases style <;> simp [asText?, LinebreakStyle.name]
  | _ => simp [asText?]

theorem asText?_eq_consistent_iff {v : Value} :
    v.asText? = some consistent ↔ v = .text consistent := by
  cases v with
  | style s => cases s <;> simp [asText?, LinebreakStyle.name, consistent]
  | _ => simp [asText?]

theorem mem_of_lookup {key : String} {v : Value} {entries : List (Value × Value)}
    (h : lookup key entries = some v) : (.text key, v) ∈ entries := by
  obtain ⟨⟨k, w⟩, hfind, rfl⟩ := Option.map_eq_some_iff.1 h
  have hkey := List.find?_some hfind
  split at hkey
  · rename_i s hs
    obtain rfl : s = key := by simpa using hkey
    obtain rfl : k = .text s := hs
    exact List.mem_of_find?_eq_some hfind
  · cases hkey

theorem mem_of_findKey {key : String} {v : Value} {entries : List (Value × Value)} :
    ∀ {keys : List String}, findKey entries keys = some (key, v) →
      key ∈ keys ∧ (.text key, v) ∈ entries
  | [], h => by simp [findKey] at h
  | k :: keys, h => by
    unfold findKey at h
    split at h
    · rename_i hlookup
      cases h
      exact ⟨List.mem_cons_self, mem_of_lookup hlookup⟩
    · obtain ⟨hkey, hmem⟩ := mem_of_findKey h
      exact ⟨List.mem_cons_of_mem _ hkey, hmem⟩

end Value

theorem Validated.both_eq_ok_iff {α β : Type} {first : Validated α} {second : Validated β}
    {p : α × β} : first.both second = .ok p ↔ first = .ok p.1 ∧ second = .ok p.2 := by
  obtain ⟨a, b⟩ := p
  cases first <;> cases second <;> simp [both]

namespace Linebreaks

theorem readOption_eq_ok_iff {setting : Value} {preferred : Option LinebreakStyle} :
    readOption setting = .ok preferred ↔ Means setting preferred := by
  constructor
  · intro h
    rw [readOption, mapError_eq_ok_iff] at h
    unfold preference at h
    split at h
    · cases h
      exact .null
    · cases h
      exact .yes
    · split_ifs at h with hconsistent
      · cases h
        obtain rfl := Value.asText?_eq_consistent_iff.1 ((Value.same_iff_asText? rfl).1 hconsistent)
        exact .consistent
      · split at h
        · rename_i style hfind
          cases h
          have hsame := List.find?_some hfind
          rcases Value.asText?_eq_name_iff.1 ((Value.same_iff_asText? rfl).1 hsame) with rfl | rfl
          · exact .name style
          · exact .style style
        · cases h
  · rintro (_ | _ | _ | style | style)
    · rfl
    · rfl
    · decide +kernel
    · cases style <;> decide +kernel
    · cases style <;> decide +kernel

end Linebreaks

namespace BlankLines

theorem extraIssues_eq_nil_iff {used : Option String} :
    ∀ {entries : List (Value × Value)}, extraIssues used entries = []
      ↔ ∀ e ∈ entries, ∃ key, e.1 = .text key ∧ used = some key
  | [] => by simp [extraIssues]
  | (key, v) :: entries => by
    rw [List.forall_mem_cons, ← extraIssues_eq_nil_iff]
    cases key with
    | text name => by_cases hused : used = some name <;> simp [extraIssues, hused]
    | _ => simp [extraIssues]

theorem readRecord_eq_ok_iff {entries : List (Value × Value)} {o : BlankLineOptions} :
    readRecord entries = .ok o
      ↔ Value.optional entries ["exceptTightLists", "except_tight_lists"] false readExcept
          = .ok o.exceptTightLists
        ∧ ∀ e ∈ entries, ∃ key, e.1 = .text key
          ∧ (Value.findKey entries ["exceptTightLists", "except_tight_lists"]).map (·.1)
            = some key := by
  obtain ⟨b⟩ := o
  rw [← extraIssues_eq_nil_iff, readRecord, except_map_eq_ok_iff]
  simp only [Validated.both_eq_ok_iff, BlankLineOptions.mk.injEq]
  rcases extraIssues _ entries with _ | ⟨issue, issues⟩
  · simp
  · simp

theorem readExcept_eq_ok_iff {v : Value} {b : Bool} : readExcept v = .ok b ↔ v = .bool b := by
  cases v <;> simp [readExcept, Validated.fail]

/-- In a mapping whose keys are different, all entries are under one key only if there is one
entry at most. -/
theorem eq_singleton_of_mem {entries : List (Value × Value)} {key v : Value}
    (hnodup : (entries.map (·.1)).Nodup) (hkey : ∀ e ∈ entries, e.1 = key)
    (hmem : (key, v) ∈ entries) : entries = [(key, v)] := by
  match entries, hmem with
  | [e], hmem => rw [List.mem_singleton.1 hmem]
  | e :: e' :: entries, hmem =>
    have hsame : e.1 = e'.1 := by rw [hkey e (by simp), hkey e' (by simp)]
    simp [hsame] at hnodup

theorem means_of_readRecord {v : Value} {entries : List (Value × Value)} {o : BlankLineOptions}
    (hentries : v.entries? = some entries) (hnodup : (entries.map (·.1)).Nodup)
    (h : readRecord entries = .ok o) : Means v o := by
  obtain ⟨b⟩ := o
  obtain ⟨hexcept, hkeys⟩ := readRecord_eq_ok_iff.1 h
  rw [Value.optional, Value.field] at hexcept
  rcases hfind : Value.findKey entries ["exceptTightLists", "except_tight_lists"] with _ | ⟨key, v⟩
  · -- Without a key that counts every entry is an issue.
    have hnil : entries = [] := by
      refine List.eq_nil_iff_forall_not_mem.2 fun e he => ?_
      obtain ⟨_, -, hused⟩ := hkeys e he
      simp [hfind] at hused
    rw [hfind] at hexcept
    obtain rfl : false = b := Except.ok.inj (mapError_eq_ok_iff.1 hexcept)
    exact .empty (hnil ▸ hentries)
  · obtain ⟨hkey, hmem⟩ := Value.mem_of_findKey hfind
    have hsingle : entries = [(.text key, v)] := by
      refine eq_singleton_of_mem hnodup (fun e he => ?_) hmem
      obtain ⟨key', he', hused⟩ := hkeys e he
      obtain rfl : key = key' := by simpa [hfind] using hused
      exact he'
    rw [hfind] at hexcept
    obtain rfl := readExcept_eq_ok_iff.1 (mapError_eq_ok_iff.1 hexcept)
    exact .entry hkey (hsingle ▸ hentries)

theorem readOption_of_entries {v : Value} {entries : List (Value × Value)}
    (h : v.entries? = some entries) : readOption v = (readRecord entries).mapError .invalid := by
  cases v with
  | map | orderedMap =>
    cases h
    rfl
  | _ => cases h

theorem readOption_eq_ok_iff {setting : Value} (h : IsSetting setting) {o : BlankLineOptions} :
    readOption setting = .ok o ↔ Means setting o := by
  constructor
  · intro hread
    unfold readOption at hread
    split at hread
    · cases hread
      exact .null
    · cases hread
      exact .yes
    · cases hread
      exact .options o
    · split at hread
      · rename_i entries hentries
        have hnodup := h.nodup_of_entries hentries
        exact means_of_readRecord hentries hnodup (mapError_eq_ok_iff.1 hread)
      · cases hread
  · rintro (_ | _ | _ | hempty | ⟨hkey, hentry⟩)
    · rfl
    · rfl
    · rfl
    · rw [readOption_of_entries hempty]
      rfl
    · rw [readOption_of_entries hentry]
      simp only [List.mem_cons, List.not_mem_nil, or_false] at hkey
      rcases hkey with rfl | rfl
      · rfl
      · rfl

end BlankLines

theorem Linebreaks.rule_takes (serial : Nat) (setting : Value) :
    (rule serial).Takes Means optionValue setting := by
  refine (rule_sound serial).takes fun v => ?_
  simp only [← readOption_eq_ok_iff]
  exact Rule.options_make

theorem BlankLines.rule_takes (serial : Nat) {setting : Value} (h : IsSetting setting) :
    (rule serial).Takes Means .blankLines setting := by
  refine (rule_sound serial).takes fun v => ?_
  simp only [← readOption_eq_ok_iff h]
  exact Rule.options_make

namespace Registry

/-- The rules at hand take all settings for what their grammars say they mean, and refuse those that
mean nothing.  The settings that are equal to the name of a style are that name and the style. -/
theorem options_grammar {setting : Value} (h : IsSetting setting) :
    (∃ r, builtIn.get "linebreak-style" = .ok r ∧ r.id = "linebreak-style"
      ∧ r.Takes Linebreaks.Means Linebreaks.optionValue setting)
    ∧ (∃ r, builtIn.get "no-missing-blank-lines" = .ok r ∧ r.id = "no-missing-blank-lines"
      ∧ r.Takes BlankLines.Means Value.blankLines setting)
    ∧ ∀ style : LinebreakStyle, setting == .text style.name
      ↔ setting = .text style.name ∨ setting = .style style := by
  refine ⟨⟨Linebreaks.rule 0, rfl, rfl, Linebreaks.rule_takes 0 setting⟩,
    ⟨BlankLines.rule 1, rfl, rfl, BlankLines.rule_takes 1 h⟩, fun style => ?_⟩
  rw [← Value.asText?_eq_name_iff]
  exact Value.same_iff_asText? rfl

/-- The entry of the one option under both of its keys. -/
def bothKeys : Value :=
  .map [(.text "exceptTightLists", .bool true), (.text "except_tight_lists", .bool true)]

theorem not_means_bothKeys (o : BlankLineOptions) : ¬ BlankLines.Means bothKeys o := by
  intro h
  cases h with
  | empty hentries | entry _ hentries => simp [bothKeys, Value.entries?] at hentries

theorem options_grammar_bothKeys :
    IsSetting bothKeys
    ∧ (∃ r reason, builtIn.get "linebreak-style" = .ok r
      ∧ r.options bothKeys = .error (.malformed "linebreak-style" bothKeys reason))
    ∧ ∃ r reason, builtIn.get "no-missing-blank-lines" = .ok r
      ∧ r.options bothKeys = .error (.malformed "no-missing-blank-lines" bothKeys reason)
      ∧ ∀ s : Sink, (r.run s bothKeys).1 = s := by
  have hsetting : IsSetting bothKeys := by
    refine .mapping rfl ?_ (by simp) ?_
    · simp
    · rintro e he
      simp only [List.mem_cons, List.not_mem_nil, or_false] at he
      rcases he with rfl | rfl
      · exact .bool true
      · exact .bool true
  obtain ⟨⟨r, hr, hid, htakes⟩, ⟨r', hr', hid', htakes'⟩, -⟩ := options_grammar hsetting
  obtain ⟨reason, hoptions, -⟩ := htakes.refuses (fun _ h => by cases h) rfl
  obtain ⟨reason', hoptions', hrun⟩ := htakes'.refuses not_means_bothKeys rfl
  rw [hid] at hoptions
  rw [hid'] at hoptions'
  exact ⟨hsetting, ⟨r, reason, hr, hoptions⟩, r', reason', hr', hoptions', fun s => by rw [hrun s]⟩

/-- An integer that means nothing to either rule, with so many digits that no refusal can show it:
neither says that it is malformed. -/
theorem options_long :
    ∃ setting, setting = Value.int (10 ^ mostDigits : Nat) ∧ IsSetting setting
      ∧ ∀ id ∈ ["linebreak-style", "no-missing-blank-lines"], ∃ r e, builtIn.get id = .ok r
        ∧ r.options setting = .error e
        ∧ e.kind = "ValueError" ∧ e.kind ≠ "MalformedConfigurationError" := by
  refine ⟨_, rfl, .int _, ?_⟩
  have hlong : ¬ (Value.int (10 ^ mostDigits : Nat)).IsShowable := not_isWritable_tenPow
  rw [List.forall_mem_cons, List.forall_mem_singleton]
  constructor
  · obtain ⟨hoptions, -⟩ := (Linebreaks.rule_takes 0 _).long (fun _ h => by cases h) hlong
    exact ⟨_, _, rfl, hoptions, rfl, by decide⟩
  · obtain ⟨hoptions, -⟩ := (BlankLines.rule_takes 1 (.int _)).long
      (fun _ h => by cases h with | empty h | entry _ h => cases h) hlong
    exact ⟨_, _, rfl, hoptions, rfl, by decide⟩

end Registry

end MarkdownLint
