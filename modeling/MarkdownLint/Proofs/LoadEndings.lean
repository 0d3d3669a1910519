import MarkdownLint.Proofs.FirstFault
import MarkdownLint.Yaml.Document

/-!
# How loading a text ends

A tree is refused as malformed or as unsafe, or it is loaded.  Two things get past that: an error
that comes through the reader of the document, such as that of a date that does not exist, and an
integer that is too long to be written where a message or a key would have to show it, perhaps that
of a limit.  Neither is reported as a malformed tree (`loadText_contained_iff`).

Of the reader no more is assumed than that the errors that come through it are not of the kinds that
loading has for trees (`DocumentReader.Foreign`).  A reader of YAML is of that sort
(`Yaml.foreign_reader`).
-/

namespace MarkdownLint

/-- A tree, or an error that says that it is malformed or goes beyond a limit. -/
def LoadError.Contained (r : Except LoadError LoadedTree) : Prop :=
  ∀ e, r = .error e → e.kind = "MalformedTreeError" ∨ e.kind = "TreeSafetyError"

/-- The errors that come through a reader say nothing of a tree: they are those of a constructor of
scalars or keys, which does not know of trees. -/
def DocumentReader.Foreign {σ : Type} (read : DocumentReader σ) : Prop :=
  ∀ content s kind message, (read content s).1 = .error (.escaping kind message) →
    kind ≠ "MalformedTreeError" ∧ kind ≠ "TreeSafetyError"

theorem Yaml.Fault.kind_ne (f : Fault) :
    f.kind ≠ "MalformedTreeError" ∧ f.kind ≠ "TreeSafetyError" := by
  cases f with
  | codePoint code =>
    rw [kind]
    split_ifs <;> decide
  | calendar fault => cases fault <;> simp [kind]
  | _ => simp [kind]

theorem Yaml.foreign_reader : DocumentReader.Foreign Yaml.reader := by
  intro content s kind message h
  obtain ⟨f, -, hf⟩ := mapError_eq_error_iff.1 h
  cases f with
  | unreadable => cases hf
  | _ =>
    cases hf
    exact Fault.kind_ne _

namespace Loader

variable {σ : Type}

/-- An error that is neither of a malformed tree nor of a limit: that of writing the limit on the
size or the size itself, one that comes through the reader, or that of an integer that loading the
tree would have to show. -/
inductive Escapes (l : Loader σ) (content : String) (text : Option String) : LoadError → Prop
  | measuring (size : l.limits.documentSize < content.length)
      (unwritable : ¬ (isWritable content.length ∧ isWritable l.limits.documentSize)) :
    Escapes l content text .integerTooLong
  | reading {kind message : String} (size : content.length ≤ l.limits.documentSize)
      (read : (l.read content l.state).1 = .error (.escaping kind message)) :
    Escapes l content text (.reading kind message)
  | showing {linked : Linked} {s : Source} (size : content.length ≤ l.limits.documentSize)
      (read : (l.read content l.state).1 = .ok linked) (present : linked.root ≠ .null)
      (source : s = { limits := l.limits, collections := linked.collections,
                      location := text.map .ofText })
      (unwritable : ¬ (l.limits.Writable ∧ s.Writable linked.root))
      (load : s.load linked.root = .error .integerTooLong) :
    Escapes l content text .integerTooLong

variable {l : Loader σ} {content : String} {text : Option String}

theorem loadText_of_oversized (h : l.limits.documentSize < content.length) :
    (l.loadText content text).1 = .error (l.limits.sizeExceeded content.length) := by
  rw [loadText, if_pos h]

theorem loadText_of_read (h : content.length ≤ l.limits.documentSize) :
    (l.loadText content text).1 = match (l.read content l.state).1 with
      | .error .unparsable => .error .unparsable
      | .error (.escaping kind message) => .error (.reading kind message)
      | .ok linked => l.loadLinked linked text :=
  congrArg Prod.fst (if_neg (Int.not_lt.2 h))

theorem loadLinked_of_present {linked : Linked} (h : linked.root ≠ .null) :
    l.loadLinked linked text
      = (Source.load { limits := l.limits, collections := linked.collections,
                       location := text.map .ofText } linked.root).map
        fun tree => ⟨tree, linked.collections⟩ := by
  unfold loadLinked
  split
  · contradiction
  · rfl

theorem loadText_of_escapes {e : LoadError} (h : Escapes l content text e) :
    (l.loadText content text).1 = .error e := by
  cases h with
  | measuring size unwritable =>
    rw [loadText_of_oversized size, Limits.sizeExceeded, showing, if_neg]
    simpa using unwritable
  | reading size read => rw [loadText_of_read size, read]
  | showing size read present source _ load =>
    subst source
    simp only [loadText_of_read size, read, loadLinked_of_present present, load]
    rfl

theorem Escapes.kind_ne (hl : l.read.Foreign) {e : LoadError} (h : Escapes l content text e) :
    e.kind ≠ "MalformedTreeError" ∧ e.kind ≠ "TreeSafetyError" := by
  cases h with
  | measuring => exact ⟨by decide, by decide⟩
  | reading _ read => exact hl _ _ _ _ read
  | showing => exact ⟨by decide, by decide⟩

/-- What is not refused as it should be escapes. -/
theorem escapes_of_error {e : LoadError} (h : (l.loadText content text).1 = .error e)
    (hmalformed : e.kind ≠ "MalformedTreeError") (hsafety : e.kind ≠ "TreeSafetyError") :
    Escapes l content text e := by
  by_cases hsize : content.length ≤ l.limits.documentSize
  · rw [loadText_of_read hsize] at h
    split at h
    · cases h
      exact absurd rfl hmalformed
    · rename_i kind message hread
      cases h
      exact .reading hsize hread
    · rename_i linked hread
      by_cases hroot : linked.root = .null
      · rw [loadLinked, hroot] at h
        cases h
        exact absurd rfl hmalformed
      · rw [loadLinked_of_present hroot] at h
        rcases hload : Source.load _ linked.root with e' | tree <;> rw [hload] at h
        · cases h
          rcases Source.load_eq_error _ _ _ hload with (rfl | rfl) | ⟨rfl, hlong⟩ | ⟨_, _, rfl, -⟩
          · exact absurd rfl hsafety
          · exact absurd rfl hsafety
          · exact .showing hsize hread hroot rfl hlong hload
          · exact absurd rfl hmalformed
        · cases h
  · rw [not_le] at hsize
    rw [loadText_of_oversized hsize, Limits.sizeExceeded] at h
    obtain rfl := Except.error.inj h
    have hshown : isWritable content.length ∧ isWritable l.limits.documentSize →
        ∀ n ∈ [(content.length : Int), l.limits.documentSize], isWritable n := fun hw =>
      List.forall_mem_cons.2 ⟨hw.1, List.forall_mem_singleton.2 hw.2⟩
    rcases showing_eq_or hshown LoadError.integerTooLong
      (.tooLarge content.length l.limits.documentSize) with heq | ⟨heq, hlong⟩
    · rw [heq] at hsafety
      exact absurd rfl hsafety
    · rw [heq]
      exact .measuring hsize hlong

/-- Loading any content, for any text or none and after any documents, gives a tree or an error of
one of the two kinds just if nothing escapes, and what escapes is what loading ends with, as an
error of another kind. -/
theorem loadText_contained_iff (l : Loader σ) (hl : l.read.Foreign) (content : String)
    (text : Option String) :
    (LoadError.Contained (l.loadText content text).1 ↔ ∀ e, ¬ Escapes l content text e)
    ∧ ∀ e, Escapes l content text e → (l.loadText content text).1 = .error e
      ∧ e.kind ≠ "MalformedTreeError" ∧ e.kind ≠ "TreeSafetyError" := by
  refine ⟨⟨fun h e he => ?_, fun h e he => ?_⟩,
    fun e he => ⟨loadText_of_escapes he, he.kind_ne hl⟩⟩
  · obtain ⟨hmalformed, hsafety⟩ := he.kind_ne hl
    rcases h e (loadText_of_escapes he) with hkind | hkind
    · exact hmalformed hkind
    · exact hsafety hkind
  · by_contra hkind
    rw [not_or] at hkind
    exact h e (escapes_of_error he hkind.1 hkind.2)

/-- The thirtieth of February among the data of a root. -/
def impossibleDate : String :=
  "{type: root, date: 2024-02-30}"

theorem read_impossibleDate : (Yaml.reader impossibleDate {}).1
    = .error (.escaping "ValueError" "day is out of range for month") := by
  have hends : (match (Yaml.reader impossibleDate {}).1 with
    | .error e => some e
    | .ok _ => none) = some (.escaping "ValueError" "day is out of range for month") := by
    decide +kernel
  rcases hread : (Yaml.reader impossibleDate {}).1 with e | linked <;> rw [hread] at hends
  · rw [Option.some.inj hends]
  · cases hends

theorem escapes_impossibleDate : Escapes Yaml.loader impossibleDate none
    (.reading "ValueError" "day is out of range for month") :=
  .reading (by decide +kernel) read_impossibleDate

/-- The day before is loaded, so nothing escapes there, and that it does here is not contained. -/
theorem loadText_contained_iff_dates :
    Yaml.loader.read.Foreign
    ∧ (∃ t, (Yaml.loader.loadText "{type: root, date: 2024-02-29}" none).1 = .ok t)
    ∧ (∀ e, ¬ Escapes Yaml.loader "{type: root, date: 2024-02-29}" none e)
    ∧ ¬ LoadError.Contained (Yaml.loader.loadText impossibleDate none).1 := by
  have hcontained := loadText_contained_iff Yaml.loader Yaml.foreign_reader
  have hloads : ((Yaml.loader.loadText "{type: root, date: 2024-02-29}" none).1.toOption).isSome :=
    by decide +kernel
  rcases hload : (Yaml.loader.loadText "{type: root, date: 2024-02-29}" none).1 with e | t
  · rw [hload] at hloads
    cases hloads
  · refine ⟨Yaml.foreign_reader, ⟨t, rfl⟩, (hcontained _ _).1.1 fun e he => ?_, fun h => ?_⟩
    · rw [hload] at he
      cases he
    · exact (hcontained _ _).1.1 h _ escapes_impossibleDate

/-- A date that does not exist is no part of a malformed tree, nor of one beyond a limit: it is said
that the day is out of range. -/
theorem not_contained_impossible_date :
    let r := (Yaml.loader.loadText "{type: root, date: 2024-02-30}" none).1
    (∃ e, r = .error e ∧ e.kind = "ValueError" ∧ e.message = "day is out of range for month")
    ∧ ¬ LoadError.Contained r := by
  intro r
  have hr : r = .error (.reading "ValueError" "day is out of range for month") :=
    loadText_of_escapes escapes_impossibleDate
  refine ⟨⟨_, hr, rfl, rfl⟩, fun h => ?_⟩
  rcases h _ hr with hkind | hkind
  · exact absurd hkind (by decide)
  · exact absurd hkind (by decide)

end Loader

end MarkdownLint
