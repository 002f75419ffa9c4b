import GitTutor.Text.Lines
import Mathlib.Tactic.Common

/-!
Lists of lines that are the lines of a text.

`IsCut ls` says that `ls` is how `pieces` cuts some text. Each of the lines is then a line by
itself, and all but the last one end in a newline (`isCut_cons_iff`). Whatever puts a text together
from lines is described by what it does to such lists.
-/

namespace GitTutor.Text

/-- The line has its newline. -/
def Ended (line : List Char) : Prop := line.getLast? = some '\n'

/-- The list is that of the lines of its text. -/
def IsCut (ls : List (List Char)) : Prop := pieces ls.flatten = ls

variable {s t line : List Char} {ls ms : List (List Char)}

lemma isCut_pieces (s : List Char) : IsCut (pieces s) := by
  rw [IsCut, flatten_pieces]

lemma isCut_nil : IsCut [] := rfl

lemma ended_append_newline (s : List Char) : Ended (s ++ ['\n']) := by
  simp [Ended]

lemma ended_append_iff (h : t ≠ []) : Ended (s ++ t) ↔ Ended t := by
  obtain ⟨c, hc⟩ := Option.ne_none_iff_exists'.1 (mt List.getLast?_eq_none_iff.1 h)
  rw [Ended, Ended, List.getLast?_append, hc, Option.some_or]

/-! ### Where a text is cut -/

lemma pieces_of_unbroken (nonempty : s ≠ []) (h : '\n' ∉ s) : pieces s = [s] := by
  induction s with
  | nil => exact absurd rfl nonempty
  | cons c s ih =>
    obtain ⟨hc, hs⟩ := not_or.1 (mt List.mem_cons.2 h)
    rw [pieces, if_neg (Ne.symm hc)]
    cases s with
    | nil => rfl
    | cons d s => rw [ih (List.cons_ne_nil d s) hs]

lemma pieces_unbroken_append (h : '\n' ∉ s) :
    pieces (s ++ '\n' :: t) = (s ++ ['\n']) :: pieces t := by
  induction s with
  | nil => simp [pieces]
  | cons c s ih =>
    obtain ⟨hc, hs⟩ := not_or.1 (mt List.mem_cons.2 h)
    rw [List.cons_append, pieces, if_neg (Ne.symm hc), ih hs]
    rfl

lemma pieces_append_newline (h : '\n' ∉ s) : pieces (s ++ ['\n']) = [s ++ ['\n']] :=
  pieces_unbroken_append h

/-- **Lines split after a newline.** -/
lemma pieces_append (h : Ended s) (t : List Char) : pieces (s ++ t) = pieces s ++ pieces t := by
  induction hn : s.length using Nat.strongRecOn generalizing s with
  | _ n ih =>
    obtain ⟨body, rest, rfl, hbody⟩ := List.eq_append_cons_of_mem (List.mem_of_getLast? h)
    rw [List.append_assoc, List.cons_append, pieces_unbroken_append hbody,
      pieces_unbroken_append hbody, List.cons_append]
    rcases eq_or_ne rest [] with rfl | hne
    · rfl
    · have ended : Ended rest := by
        rwa [← List.singleton_append, ← List.append_assoc, ended_append_iff hne] at h
      rw [ih rest.length (by simp at hn; omega) ended rfl]

lemma newline_not_mem (h : pieces line = [line]) (open' : ¬Ended line) : '\n' ∉ line := by
  intro hmem
  obtain ⟨body, rest, rfl, hbody⟩ := List.eq_append_cons_of_mem hmem
  rw [pieces_unbroken_append hbody] at h
  obtain ⟨hline, -⟩ := List.cons.inj h
  exact open' (hline ▸ ended_append_newline body)

/-! ### Lists that are cut -/

/-- **A list is cut where its first line is one by itself and ends in a newline, unless nothing
follows it.** -/
lemma isCut_cons_iff :
    IsCut (line :: ls) ↔ pieces line = [line] ∧ (ls ≠ [] → Ended line) ∧ IsCut ls := by
  constructor
  · intro h
    rw [IsCut, List.flatten_cons] at h
    by_cases hn : '\n' ∈ line ++ ls.flatten
    · obtain ⟨body, rest, hs, hbody⟩ := List.eq_append_cons_of_mem hn
      rw [hs, pieces_unbroken_append hbody] at h
      obtain ⟨rfl, rfl⟩ := List.cons.inj h
      exact ⟨pieces_append_newline hbody, fun _ => ended_append_newline body, isCut_pieces rest⟩
    · have nonempty : line ++ ls.flatten ≠ [] := by
        intro hnil
        rw [hnil] at h
        cases h
      have hs := pieces_of_unbroken nonempty hn
      obtain ⟨hline, rfl⟩ := List.cons.inj (hs.symm.trans h)
      rw [hline] at hs
      exact ⟨hs, absurd rfl, isCut_nil⟩
  · rintro ⟨hline, ended, hls⟩
    rcases eq_or_ne ls [] with rfl | hne
    · rw [IsCut, List.flatten_singleton, hline]
    · rw [IsCut, List.flatten_cons, pieces_append (ended hne), hline, hls, List.singleton_append]

lemma isCut_append_iff :
    IsCut (ls ++ ms) ↔ IsCut ls ∧ IsCut ms ∧ (ms ≠ [] → ∀ line ∈ ls, Ended line) := by
  induction ls with
  | nil => simp [isCut_nil]
  | cons line ls ih =>
    rw [List.cons_append, isCut_cons_iff, isCut_cons_iff, ih, List.forall_mem_cons]
    have : ls ++ ms ≠ [] ↔ ls ≠ [] ∨ ms ≠ [] := by
      rw [Ne, List.append_eq_nil_iff, not_and_or]
    tauto

lemma IsCut.single (h : IsCut ls) (hl : line ∈ ls) : pieces line = [line] := by
  obtain ⟨before, after, rfl⟩ := List.append_of_mem hl
  exact (isCut_cons_iff.1 (isCut_append_iff.1 h).2.1).1

lemma isCut_of_ended (h : ∀ line ∈ ls, pieces line = [line] ∧ Ended line) : IsCut ls := by
  induction ls with
  | nil => exact isCut_nil
  | cons line ls ih =>
    obtain ⟨⟨hline, ended⟩, hls⟩ := List.forall_mem_cons.1 h
    exact isCut_cons_iff.2 ⟨hline, fun _ => ended, ih hls⟩

lemma ended_of_mem_pieces (h : Ended s) (hl : line ∈ pieces s) : Ended line := by
  obtain ⟨before, after, hs⟩ := List.append_of_mem hl
  have hcut := isCut_pieces s
  rw [hs] at hcut
  obtain ⟨hline, ended, -⟩ := isCut_cons_iff.1 (isCut_append_iff.1 hcut).2.1
  rcases eq_or_ne after [] with rfl | hne
  · have nonempty : line ≠ [] := ne_nil_of_mem_pieces hl
    rw [← flatten_pieces s, hs, List.flatten_append, List.flatten_singleton,
      ended_append_iff nonempty] at h
    exact h
  · exact ended hne

end GitTutor.Text
