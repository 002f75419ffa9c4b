import GitTutor.Text.Blank
import Mathlib.Data.List.DropRight
import Mathlib.Tactic.Common

/-!
Texts without blanks at their ends.

Trimming drops the blanks at either end and nothing else. So blanks that are added at an end are
dropped again, and a text is left as it is exactly if it neither starts nor ends with a blank.
-/

namespace GitTutor.Text

variable {s t : List Char} {c : Char}

/-! ### Blanks that are added -/

lemma trimEnd_append_of_allBlank (s : List Char) (blank : AllBlank t) :
    trimEnd (s ++ t) = trimEnd s := by
  have reversed : ∀ c ∈ t.reverse, isBlank c = true := fun c hc => blank c (List.mem_reverse.1 hc)
  rw [trimEnd, trimEnd, List.reverse_append, List.dropWhile_append_of_pos reversed]

lemma trim_append_of_allBlank (s : List Char) (blank : AllBlank t) : trim (s ++ t) = trim s := by
  rw [trim, trim, trimStart, trimStart, List.dropWhile_append]
  split
  · rename_i empty
    have nothing : t.dropWhile isBlank = [] := trimStart_eq_nil_iff.2 blank
    rw [nothing, List.isEmpty_iff.1 empty]
  · exact trimEnd_append_of_allBlank _ blank

lemma trim_cons_of_isBlank (s : List Char) (blank : isBlank c = true) : trim (c :: s) = trim s := by
  rw [trim, trimStart, List.dropWhile_cons_of_pos blank, trim, trimStart]

/-! ### Texts that are left as they are -/

lemma trimStart_eq_self_iff : trimStart s = s ↔ ∀ c ∈ s.head?, isBlank c = false := by
  rw [trimStart, List.dropWhile_eq_self_iff]
  cases s <;> simp

lemma trimEnd_eq_self_iff : trimEnd s = s ↔ ∀ c ∈ s.getLast?, isBlank c = false := by
  have right : trimEnd s = s.rdropWhile isBlank := rfl
  rw [right, List.rdropWhile_eq_self_iff]
  rcases eq_or_ne s [] with rfl | nonempty
  · simp
  · simp [nonempty, List.getLast?_eq_some_getLast nonempty]

lemma trim_eq_self_iff : trim s = s ↔
    (∀ c ∈ s.head?, isBlank c = false) ∧ ∀ c ∈ s.getLast?, isBlank c = false := by
  rw [← trimStart_eq_self_iff, ← trimEnd_eq_self_iff]
  constructor
  · intro same
    -- The start has not been shortened, since the end cannot make up for that.
    have start : trimStart s <:+ s := List.dropWhile_suffix isBlank
    have ending : trim s <+: trimStart s := List.rdropWhile_prefix isBlank (trimStart s)
    rw [same] at ending
    have whole : trimStart s = s := start.eq_of_length_le ending.length_le
    exact ⟨whole, by rwa [trim, whole] at same⟩
  · rintro ⟨start, ending⟩
    rw [trim, start, ending]

end GitTutor.Text
