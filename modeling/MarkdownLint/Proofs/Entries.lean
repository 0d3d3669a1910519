import MarkdownLint.TreeDocument
import Mathlib.Tactic.Common

/-!
# Entries of a mapping

Where the keys of a mapping are different, what it holds under a key does not depend on the order
of its entries (`lookup_eq_some_of_mem`), and the entries that are no fields of a node become its
data as they are (`dataOf_eq`).
-/

namespace MarkdownLint

namespace Value

theorem lookup_cons_self (key : String) (v : Value) (entries : List (Value × Value)) :
    lookup key ((.text key, v) :: entries) = some v := by
  simp [lookup]

theorem lookup_cons_of_ne {key : String} {k : Value} (h : k ≠ .text key) (v : Value)
    (entries : List (Value × Value)) : lookup key ((k, v) :: entries) = lookup key entries := by
  rw [lookup, lookup, List.find?_cons_of_neg]
  cases k with
  | text s => simpa using h
  | _ => simp

theorem lookup_eq_some_of_mem {key : String} {v : Value} :
    ∀ {entries : List (Value × Value)}, (entries.map (·.1)).Nodup → (.text key, v) ∈ entries →
      lookup key entries = some v
  | (k, w) :: entries, hnd, hmem => by
    rw [List.map_cons, List.nodup_cons] at hnd
    rcases List.mem_cons.1 hmem with heq | hmem
    · cases heq
      exact lookup_cons_self key v entries
    · have hne : k ≠ .text key := fun heq => hnd.1 (heq ▸ List.mem_map.2 ⟨_, hmem, rfl⟩)
      rw [lookup_cons_of_ne hne]
      exact lookup_eq_some_of_mem hnd.2 hmem

theorem lookup_eq_none {key : String} :
    ∀ {entries : List (Value × Value)}, .text key ∉ entries.map (·.1) →
      lookup key entries = none
  | [], _ => rfl
  | (k, w) :: entries, h => by
    rw [List.map_cons, List.mem_cons, not_or] at h
    rw [lookup_cons_of_ne (Ne.symm h.1)]
    exact lookup_eq_none h.2

end Value

theorem putEntry_of_notMem {entries : List (String × Value)} {key : String} {value : Value}
    (h : key ∉ entries.map (·.1)) : putEntry entries key value = entries ++ [(key, value)] := by
  have hany : entries.any (·.1 = key) = false := by
    rw [List.any_eq_false]
    intro e he heq
    exact h (List.mem_map.2 ⟨e, he, by simpa using heq⟩)
  rw [putEntry, hany]
  rfl

/-- Entries under new and different keys are put behind the ones that are there. -/
theorem putEntries_eq_append :
    ∀ {more entries : List (String × Value)}, ((entries ++ more).map (·.1)).Nodup →
      putEntries entries more = entries ++ more
  | [], entries, _ => by simp [putEntries]
  | (key, value) :: more, entries, h => by
    have hkey : key ∉ entries.map (·.1) := by
      rw [List.map_append, List.nodup_append] at h
      exact fun hmem => h.2.2 key hmem key (by simp) rfl
    have hassoc : entries ++ (key, value) :: more = entries ++ [(key, value)] ++ more := by simp
    rw [hassoc] at h ⊢
    rw [← putEntries_eq_append h, ← putEntry_of_notMem hkey]
    rfl

namespace Source

/-- The entry of the extra data that an entry of a mapping with a text as its key becomes, if the
key is no field. -/
def dataItem? (e : Value × Value) : Option (String × Value) :=
  match e.1 with
  | .text k => if reservedKeys.contains k then none else some (k, e.2)
  | k => some (k.label, e.2)

theorem dataItem?_of_mem {k : String} (h : k ∈ reservedKeys) (v : Value) :
    dataItem? (.text k, v) = none := by
  simp [dataItem?, h]

theorem dataItem?_of_notMem {k : String} (h : k ∉ reservedKeys) (v : Value) :
    dataItem? (.text k, v) = some (k, v) := by
  simp [dataItem?, h]

theorem dataOf_eq {entries : List (Value × Value)} {data : List (String × Value)}
    (hkeys : ∀ e ∈ entries, ∃ k, e.1 = .text k) (hdata : entries.filterMap dataItem? = data)
    (hnd : (data.map (·.1)).Nodup) : dataOf entries = some data := by
  have hshowable : entries.all (fun e => e.1.isShowable) = true := by
    rw [List.all_eq_true]
    intro e he
    obtain ⟨k, hk⟩ := hkeys e he
    rw [hk]
    rfl
  have hput : putEntries [] (entries.filterMap dataItem?) = data := by
    rw [hdata, putEntries_eq_append (by simpa using hnd), List.nil_append]
  rw [dataOf, if_pos hshowable, ← hput]
  rfl

end Source

end MarkdownLint
