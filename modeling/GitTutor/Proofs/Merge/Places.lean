import GitTutor.Proofs.Merge.Marks

/-!
Where the marks of a conflict region stand.

The search for a conflict region settles on the first start mark and then on the first divider
behind it. Nothing is lost by that: it finds a region exactly if some three lines of the text begin
with the three marks in order, however many other lines do. What stands at a line, in turn, is told
by the text itself, as a line begins with the text or behind a newline (`beginsAt_iff`).
-/

namespace GitTutor

namespace Text

variable {s line : List Char} {ls : List (List Char)}

lemma ended_flatten (h : ∀ line ∈ ls, Ended line) : ls.flatten = [] ∨ Ended ls.flatten := by
  rcases List.eq_nil_or_concat' ls with rfl | ⟨before, last, rfl⟩
  · exact .inl rfl
  · have ended : Ended last := h last (by simp)
    have nonempty : last ≠ [] := by
      rintro rfl
      cases ended
    refine .inr ?_
    rw [List.flatten_append, List.flatten_singleton, ended_append_iff nonempty]
    exact ended

lemma count_newline_of_ended (single : pieces line = [line]) (ended : Ended line) :
    line.count '\n' = 1 := by
  obtain ⟨body, rest, rfl, hbody⟩ := List.eq_append_cons_of_mem (List.mem_of_getLast? ended)
  rw [pieces_unbroken_append hbody] at single
  obtain ⟨hline, -⟩ := List.cons.inj single
  rw [← hline, List.count_append, List.count_eq_zero_of_not_mem hbody, List.count_singleton_self]

lemma length_pieces_of_ended (h : s = [] ∨ Ended s) : (pieces s).length = s.count '\n' := by
  have once : ∀ line ∈ pieces s, line.count '\n' = 1 := by
    intro line hl
    rcases h with rfl | ended
    · cases hl
    · exact count_newline_of_ended ((isCut_pieces s).single hl) (ended_of_mem_pieces ended hl)
  symm
  calc s.count '\n' = (pieces s).flatten.count '\n' := by rw [flatten_pieces]
    _ = ((pieces s).map (List.count '\n')).sum := List.count_flatten
    _ = ((pieces s).map fun _ => 1).sum := by rw [List.map_congr_left once]
    _ = (pieces s).length := by simp

end Text

namespace Merge

open GitTutor.Text

variable {text : String} {mark : List Char} {place : Nat} {want ls : List Line} {line : Line}

/-! ### Lines by their places -/

/-- The line at a place begins with a mark. -/
def BeginsAt (ls : List Line) (mark : List Char) (place : Nat) : Prop :=
  ∃ line, ls[place]? = some line ∧ mark <+: line

lemma cons_sublist_iff_getElem? :
    (line :: want).Sublist ls ↔ ∃ i, ls[i]? = some line ∧ want.Sublist (ls.drop (i + 1)) := by
  induction ls with
  | nil => simp
  | cons l ls ih =>
    constructor
    · intro h
      rcases List.sublist_cons_iff.1 h with later | ⟨rest, same, hrest⟩
      · obtain ⟨i, hi, hwant⟩ := ih.1 later
        exact ⟨i + 1, hi, hwant⟩
      · obtain ⟨rfl, rfl⟩ := List.cons.inj same
        exact ⟨0, rfl, hrest⟩
    · rintro ⟨i, hi, hwant⟩
      cases i with
      | zero =>
        obtain rfl : l = line := by simpa using hi
        exact List.Sublist.cons_cons l hwant
      | succ i => exact (ih.2 ⟨i, hi, hwant⟩).cons l

lemma marked_iff_places : Marked ls ↔ ∃ i j k : Nat, i < j ∧ j < k ∧
    BeginsAt ls startMark i ∧ BeginsAt ls dividerMark j ∧ BeginsAt ls endMark k := by
  constructor
  · rintro ⟨s, d, e, hsub, hs, hd, he⟩
    -- Each place is counted from behind the line before it.
    obtain ⟨i, hi, hsub⟩ := cons_sublist_iff_getElem?.1 hsub
    obtain ⟨j, hj, hsub⟩ := cons_sublist_iff_getElem?.1 hsub
    obtain ⟨k, hk, -⟩ := cons_sublist_iff_getElem?.1 hsub
    rw [List.getElem?_drop] at hj
    rw [List.drop_drop, List.getElem?_drop] at hk
    exact ⟨i, _, _, by omega, by omega, ⟨s, hi, hs⟩, ⟨d, hj, hd⟩, ⟨e, hk, he⟩⟩
  · rintro ⟨i, j, k, hij, hjk, ⟨s, hi, hs⟩, ⟨d, hj, hd⟩, ⟨e, hk, he⟩⟩
    have divides : (ls.drop (i + 1))[j - (i + 1)]? = some d := by
      rw [List.getElem?_drop, Nat.add_sub_cancel' hij, hj]
    have ends : [e].Sublist ((ls.drop (i + 1)).drop (j - (i + 1) + 1)) := by
      rw [List.singleton_sublist, List.drop_drop, List.mem_iff_getElem?]
      refine ⟨k - (j + 1), ?_⟩
      rw [List.getElem?_drop, ← hk]
      congr 1
      omega
    refine ⟨s, d, e, ?_, hs, hd, he⟩
    exact cons_sublist_iff_getElem?.2 ⟨i, hi, cons_sublist_iff_getElem?.2 ⟨_, divides, ends⟩⟩

/-! ### Places in a text -/

lemma beginsAt_lines_iff (hnewline : '\n' ∉ mark) (hreturn : '\r' ∉ mark) (s : List Char) :
    BeginsAt (lines s) mark place ↔ BeginsAt (pieces s) mark place := by
  simp only [BeginsAt, lines, List.getElem?_map, Option.map_eq_some_iff, exists_exists_and_eq_and,
    prefix_bareLine_iff hnewline hreturn]

lemma exists_of_beginsAt {s : List Char} (h : BeginsAt (pieces s) mark place) :
    ∃ before after, s = before ++ mark ++ after ∧ (before = [] ∨ Ended before) ∧
      before.count '\n' = place := by
  obtain ⟨line, hl, rest, rfl⟩ := h
  obtain ⟨hlt, hl⟩ := List.getElem?_eq_some_iff.1 hl
  have split : pieces s =
      (pieces s).take place ++ (mark ++ rest) :: (pieces s).drop (place + 1) := by
    rw [← hl, ← List.drop_eq_getElem_cons hlt, List.take_append_drop]
  have length : ((pieces s).take place).length = place := by
    rw [List.length_take]
    omega
  -- Each of the lines in front has its newline, for there is a line behind it.
  have cut : IsCut ((pieces s).take place ++ (mark ++ rest) :: (pieces s).drop (place + 1)) :=
    split ▸ isCut_pieces s
  obtain ⟨cut, -, ended⟩ := isCut_append_iff.1 cut
  have start := ended_flatten (ended (List.cons_ne_nil _ _))
  refine ⟨((pieces s).take place).flatten, rest ++ ((pieces s).drop (place + 1)).flatten, ?_, start,
    ?_⟩
  · calc s = (pieces s).flatten := (flatten_pieces s).symm
      _ = ((pieces s).take place ++ (mark ++ rest) :: (pieces s).drop (place + 1)).flatten :=
        congrArg List.flatten split
      _ = _ := by simp only [List.flatten_append, List.flatten_cons, List.append_assoc]
  · rw [← length_pieces_of_ended start, cut, length]

lemma beginsAt_append (hnewline : '\n' ∉ mark) (nonempty : mark ≠ []) {before : List Char}
    (start : before = [] ∨ Ended before) (after : List Char) :
    BeginsAt (pieces (before ++ mark ++ after)) mark (before.count '\n') := by
  obtain ⟨line, rest, hl, hmark⟩ := exists_pieces_eq_cons hnewline nonempty after
  have split : pieces (before ++ mark ++ after) = pieces before ++ line :: rest := by
    rw [List.append_assoc, ← hl]
    rcases start with rfl | ended
    · rfl
    · exact pieces_append ended _
  refine ⟨line, ?_, hmark⟩
  rw [split, ← length_pieces_of_ended start, List.getElem?_append_right (Nat.le_refl _),
    Nat.sub_self]
  rfl

/-- **A line begins with a mark where the mark stands in the text at its start or behind a
newline.** The place of the line is the number of newlines in front. -/
lemma beginsAt_iff (hnewline : '\n' ∉ mark) (hreturn : '\r' ∉ mark) (nonempty : mark ≠ [])
    (s : List Char) : BeginsAt (lines s) mark place ↔ ∃ before after,
      s = before ++ mark ++ after ∧ (before = [] ∨ Ended before) ∧ before.count '\n' = place := by
  rw [beginsAt_lines_iff hnewline hreturn]
  constructor
  · exact exists_of_beginsAt
  · rintro ⟨before, after, rfl, start, rfl⟩
    exact beginsAt_append hnewline nonempty start after

/-- **A text holds a conflict region where three of its lines begin with the marks in order.** No
choice among lines with marks is ever taken back, whatever other lines begin with them. Whether a
line begins with a mark does not depend on how it ends: the mark stands behind as many newlines as
there are lines before, at the start of the text or right behind the last of these. -/
theorem conflict_told_by_places (text : String) :
    (hasMarks text = true ↔ ∃ i j k : Nat, i < j ∧ j < k ∧
      BeginsAt (lines text.toList) startMark i ∧ BeginsAt (lines text.toList) dividerMark j ∧
        BeginsAt (lines text.toList) endMark k) ∧
      ∀ mark ∈ [startMark, dividerMark, endMark], ∀ place,
        BeginsAt (lines text.toList) mark place ↔ ∃ before after,
          text.toList = before ++ mark ++ after ∧ (before = [] ∨ Ended before) ∧
            before.count '\n' = place := by
  refine ⟨?_, fun mark hmark place => ?_⟩
  · rw [hasMarks, lineMarks_iff, marked_iff_places]
  · have plain : ∀ mark ∈ [startMark, dividerMark, endMark], '\r' ∉ mark ∧ mark ≠ [] := by decide
    have hnewline := newline_not_mem_mark mark hmark
    obtain ⟨hreturn, nonempty⟩ := plain mark hmark
    exact beginsAt_iff hnewline hreturn nonempty text.toList

end Merge

end GitTutor
