import MarkdownLint.Proofs.LineStarts
import MarkdownLint.Proofs.Showable

/-!
# Offsets and positions

The offsets of a text and the pairs of a line and a column that `toOffset` accepts are the same
thing in two forms (`position_correspondence`): `toPosition` and `toOffset` undo each other, what
the one refuses the other never gives, and a later offset has a later position, line before
column.  A refusal says that the place is out of range, unless an integer in its message is too long
to be written (`kind_of_toOffset`).
-/

namespace MarkdownLint.Location

variable {l : Location}

theorem exists_toPosition_iff (h : l.InOrder) {o : Int} :
    (∃ p, l.toPosition o = .ok p) ↔ 0 ≤ o ∧ o ≤ l.length := by
  constructor
  · rintro ⟨p, hp⟩
    obtain ⟨i, hi, rfl, -, -⟩ := (toPosition_eq_ok_iff h).1 hp
    have := hi.le_length
    omega
  · rintro ⟨hlow, hhigh⟩
    obtain ⟨n, rfl⟩ := Int.eq_ofNat_of_zero_le hlow
    obtain ⟨i, hi⟩ := exists_inLine h (o := n) (by omega)
    exact ⟨_, toPosition_eq h hi⟩

theorem offset_of_toPosition (h : l.InOrder) {o : Int} {p : Position}
    (hp : l.toPosition o = .ok p) : p.offset = o := by
  obtain ⟨-, -, rfl, -, -⟩ := (toPosition_eq_ok_iff h).1 hp
  rfl

/-- A column is counted from the start of its line, which is not past the offset. -/
theorem column_of_toPosition (h : l.InOrder) {o : Int} {p : Position}
    (hp : l.toPosition o = .ok p) :
    ∃ start : Nat, l.lineStart p.line = .ok start ∧ start ≤ o ∧ p.column = o - start + 1 := by
  obtain ⟨i, hi, rfl, hline, hcolumn⟩ := (toPosition_eq_ok_iff h).1 hp
  have hle := hi.startAt_le
  refine ⟨l.startAt i, ?_, by omega, by omega⟩
  rw [hline]
  exact lineStart_natCast l hi.lt_lineCount

theorem toOffset_of_toPosition (h : l.InOrder) {o : Int} {p : Position}
    (hp : l.toPosition o = .ok p) : l.toOffset p.line p.column = .ok p.offset := by
  obtain ⟨i, hi, -, hline, hcolumn⟩ := (toPosition_eq_ok_iff h).1 hp
  have hle := hi.startAt_le
  exact (toOffset_eq_ok_iff h).2 ⟨i, hi, by omega, by omega⟩

theorem toPosition_of_toOffset (h : l.InOrder) {line column : Int} {o : Nat}
    (ho : l.toOffset line column = .ok o) :
    ∃ p, l.toPosition o = .ok p ∧ p.line = line ∧ p.column = column := by
  obtain ⟨i, hi, rfl, rfl⟩ := (toOffset_eq_ok_iff h).1 ho
  have hle := hi.startAt_le
  exact ⟨_, toPosition_eq h hi, by push_cast; rfl, by push_cast [hle]; omega⟩

theorem toOffset_le_length (h : l.InOrder) {line column : Int} {o : Nat}
    (ho : l.toOffset line column = .ok o) : o ≤ l.length := by
  obtain ⟨i, hi, -, -⟩ := (toOffset_eq_ok_iff h).1 ho
  exact hi.le_length

theorem toPosition_eq_error {o : Int} (h : o < 0 ∨ l.length < o) :
    l.toPosition o = .error (.ofOutOfRange (.offset o l.length)) := by
  rw [toPosition, findPosition, if_pos h]
  rfl

/-- What is refused is the line, which then is all that is shown, or the column in it. -/
theorem findOffset_eq_error {line column : Int} {e : OutOfRange}
    (h : l.findOffset line column = .error e) :
    (¬ (1 ≤ line ∧ line ≤ l.lineCount) ∧ e.shown = [line])
      ∨ (1 ≤ line ∧ line ≤ l.lineCount) ∧ e.shown = [column, line] := by
  rw [findOffset, findStart] at h
  split_ifs at h with hline
  · right
    simp only [bind, Except.bind] at h
    split_ifs at h
    cases h
    exact ⟨hline, rfl⟩
  · left
    cases h
    exact ⟨hline, rfl⟩

theorem kind_of_toOffset {line column : Int} {e : LocationError}
    (h : l.toOffset line column = .error e) :
    e.kind = if isWritable line ∧ (1 ≤ line ∧ line ≤ l.lineCount → isWritable column)
      then "OutOfRangeError" else "ValueError" := by
  obtain ⟨cause, hcause, rfl⟩ := mapError_eq_error_iff.1 h
  rw [LocationError.kind_ofOutOfRange]
  refine if_congr ?_ rfl rfl
  rcases findOffset_eq_error hcause with ⟨hline, hshown⟩ | ⟨hline, hshown⟩
  · simp [hshown, hline]
  · simp [hshown, hline, and_comm]

/-- A pair that is refused is the position of no offset, as `toOffset` undoes `toPosition`. -/
theorem ne_of_toOffset_error (h : l.InOrder) {line column : Int} {e : LocationError}
    (he : l.toOffset line column = .error e) {o : Int} {p : Position}
    (hp : l.toPosition o = .ok p) : ¬ ((p.line : Int) = line ∧ (p.column : Int) = column) := by
  rintro ⟨rfl, rfl⟩
  rw [toOffset_of_toPosition h hp] at he
  cases he

theorem toPosition_lt (h : l.InOrder) {o₁ o₂ : Int} {p₁ p₂ : Position}
    (h₁ : l.toPosition o₁ = .ok p₁) (h₂ : l.toPosition o₂ = .ok p₂) (hlt : o₁ < o₂) :
    p₁.line < p₂.line ∨ p₁.line = p₂.line ∧ p₁.column < p₂.column := by
  obtain ⟨i, hi, rfl, hline₁, hcolumn₁⟩ := (toPosition_eq_ok_iff h).1 h₁
  obtain ⟨j, hj, rfl, hline₂, hcolumn₂⟩ := (toPosition_eq_ok_iff h).1 h₂
  have hij : i ≤ j := hi.mono h hj (by omega)
  rcases Nat.lt_or_eq_of_le hij with hij | rfl
  · exact .inl (by omega)
  · have hle₁ := hi.startAt_le
    have hle₂ := hj.startAt_le
    exact .inr ⟨by omega, by omega⟩

theorem exists_toPosition (h : l.InOrder) {o : Nat} (ho : o ≤ l.length) :
    ∃ p, l.toPosition o = .ok p ∧ p.offset = o ∧ l.toPosition p.offset = .ok p := by
  obtain ⟨p, hp⟩ := (exists_toPosition_iff h (o := o)).2 (by omega)
  have hoffset := offset_of_toPosition h hp
  exact ⟨p, hp, by omega, hoffset ▸ hp⟩

/-- The position of an offset is not after that of an offset that is no smaller. -/
theorem le_of_offset_le (h : l.InOrder) {p q : Position} (hp : l.toPosition p.offset = .ok p)
    (hq : l.toPosition q.offset = .ok q) (hpq : p.offset ≤ q.offset) :
    p.line < q.line ∨ p.line = q.line ∧ p.column ≤ q.column := by
  rcases Nat.lt_or_eq_of_le hpq with hlt | heq
  · have := toPosition_lt h hp hq (by omega)
    omega
  · rw [heq, hq] at hp
    cases hp
    omega

/-- The offsets of a text and the pairs of line and column that `toOffset` accepts correspond,
in order, by `toPosition` and `toOffset`.  Both refuse everything else as out of range, apart from
integers that are too long to be shown. -/
theorem position_correspondence (text : String) :
    let l := Location.ofText text
    (∀ o : Int, (∃ p, l.toPosition o = .ok p) ↔ 0 ≤ o ∧ o ≤ text.length)
    ∧ (∀ (o : Int) (e : LocationError), l.toPosition o = .error e →
        e = if isWritable o then .outOfRange (.offset o text.length) else .integerTooLong)
    ∧ (∀ (o : Int) (p : Position), l.toPosition o = .ok p →
        (∃ start : Nat, l.lineStart p.line = .ok start ∧ start ≤ o ∧ p.column = o - start + 1)
        ∧ 1 ≤ p.line ∧ 1 ≤ p.column ∧ p.offset = o
        ∧ l.toOffset p.line p.column = .ok p.offset)
    ∧ (∀ (line column : Int) (o : Nat), l.toOffset line column = .ok o →
        o ≤ text.length ∧ ∃ p, l.toPosition o = .ok p ∧ p.line = line ∧ p.column = column)
    ∧ (∀ (line column : Int) (e : LocationError), l.toOffset line column = .error e →
        (e.kind = if isWritable line ∧ (1 ≤ line ∧ line ≤ l.lineCount → isWritable column)
          then "OutOfRangeError" else "ValueError")
        ∧ ∀ (o : Int) (p : Position), l.toPosition o = .ok p →
          ¬ ((p.line : Int) = line ∧ (p.column : Int) = column))
    ∧ ∀ (o₁ o₂ : Int) (p₁ p₂ : Position), l.toPosition o₁ = .ok p₁ → l.toPosition o₂ = .ok p₂ →
        o₁ < o₂ → p₁.line < p₂.line ∨ p₁.line = p₂.line ∧ p₁.column < p₂.column := by
  intro l
  have h : l.InOrder := ofText_inOrder text
  have hlength : l.length = text.length := ofText_length text
  refine ⟨fun o => ?_, fun o e he => ?_, fun o p hp => ?_, fun line column o ho => ?_, ?_, ?_⟩
  · rw [← hlength]
    exact exists_toPosition_iff h
  · have hout : o < 0 ∨ l.length < o := by
      by_contra hin
      obtain ⟨p, hp⟩ := (exists_toPosition_iff h (o := o)).2 (by omega)
      rw [hp] at he
      cases he
    rw [toPosition_eq_error hout, LocationError.ofOutOfRange_offset, hlength] at he
    exact (Except.error.inj he).symm
  · exact ⟨column_of_toPosition h hp, p.one_le_line, p.one_le_column, offset_of_toPosition h hp,
      toOffset_of_toPosition h hp⟩
  · rw [← hlength]
    exact ⟨toOffset_le_length h ho, toPosition_of_toOffset h ho⟩
  · exact fun line column e he => ⟨kind_of_toOffset he, fun o p hp => ne_of_toOffset_error h he hp⟩
  · exact fun o₁ o₂ p₁ p₂ h₁ h₂ hlt => toPosition_lt h h₁ h₂ hlt

/-- An offset and a line that no text has, with so many digits that the refusal cannot show them,
are not said to be out of range. -/
theorem toPosition_toOffset_long :
    (∃ e, (ofText "a").toPosition (10 ^ mostDigits : Nat) = .error e ∧ e.kind = "ValueError")
    ∧ ∃ e, (ofText "a").toOffset (10 ^ mostDigits : Nat) 1 = .error e ∧ e.kind = "ValueError" := by
  have hlong : ¬ isWritable (10 ^ mostDigits : Nat) := not_isWritable_tenPow
  have hpast := one_lt_tenPow
  generalize 10 ^ mostDigits = n at hlong hpast ⊢
  have hlength : (ofText "a").length = 1 := ofText_length "a"
  constructor
  · refine ⟨_, toPosition_eq_error (.inr (by omega)), ?_⟩
    rw [LocationError.ofOutOfRange_offset, if_neg hlong]
    rfl
  · rcases he : (ofText "a").toOffset n 1 with e | o
    · have hkind := kind_of_toOffset he
      rw [if_neg fun h => hlong h.1] at hkind
      exact ⟨e, rfl, hkind⟩
    · obtain ⟨i, hi, hline, -⟩ := (toOffset_eq_ok_iff (ofText_inOrder "a")).1 he
      have hcount : (ofText "a").lineCount = 1 := by decide
      have hlt := hi.lt_lineCount
      omega

end MarkdownLint.Location
