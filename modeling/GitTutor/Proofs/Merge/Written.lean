import GitTutor.Proofs.Merge.Sides
import GitTutor.Proofs.Text.Lines

/-!
A merged text line by line.

The lines of a merged text are those of its regions, one after another (`pieces_written`): a
dispute always begins and ends on a line of its own, whatever stands before it and whether or not
the lines in it have newlines.
-/

namespace GitTutor.Merge

open GitTutor.Text

/-- The line that opens a dispute. It is more than one line if the label has newlines. -/
def startLine (labels : Labels) : List Char := startMark ++ ' ' :: labels.ours.toList ++ ['\n']

def dividerLine : Line := dividerMark ++ ['\n']

/-- The line that closes a dispute. It is more than one line if the label has newlines. -/
def endLine (labels : Labels) : List Char := endMark ++ ' ' :: labels.theirs.toList ++ ['\n']

/-- The lines of a region as they stand in the text. -/
def Region.lines (labels : Labels) : Region → List Line
  | .settled lines => lines
  | .disputed ours theirs =>
    pieces (startLine labels) ++ ours.map completed ++ dividerLine :: theirs.map completed ++
      pieces (endLine labels)

variable {labels : Labels} {side : Side} {rs : List Region} {line : Line}
  {base ours theirs own other os ts : List Line}

lemma flatten_lines (labels : Labels) (region : Region) :
    (region.lines labels).flatten = region.render labels := by
  cases region with
  | settled lines => rfl
  | disputed ours theirs =>
    simp [Region.lines, Region.render, flatten_pieces, startLine, dividerLine, endLine]

lemma flatten_flatMap_lines (labels : Labels) (rs : List Region) :
    (rs.flatMap (Region.lines labels)).flatten = rs.flatMap (Region.render labels) := by
  rw [← List.flatMap_id, List.flatMap_assoc]
  refine List.flatMap_congr fun region _ => ?_
  rw [List.flatMap_id, flatten_lines]

lemma flatMap_lines_of_agreed (labels : Labels) (side : Side)
    (agreed : ∀ region ∈ rs, region.isDisputed = false) :
    rs.flatMap (Region.lines labels) = sideLines side rs := by
  refine List.flatMap_congr fun region h => ?_
  rw [eq_settled (agreed region h) side]
  rfl

/-! ### Lines with newlines -/

lemma completed_of_ended (h : Ended line) : completed line = line := if_pos h

lemma ended_completed (line : Line) : Ended (completed line) := by
  unfold completed
  split_ifs with h
  · exact h
  · exact ended_append_newline line

lemma pieces_completed (h : pieces line = [line]) : pieces (completed line) = [completed line] := by
  unfold completed
  split_ifs with ended
  · exact h
  · exact pieces_append_newline (newline_not_mem h ended)

lemma ended_of_mem_disputed (hos : ∀ line ∈ os, pieces line = [line])
    (hts : ∀ line ∈ ts, pieces line = [line]) (labels : Labels) :
    ∀ line ∈ (Region.disputed os ts).lines labels, pieces line = [line] ∧ Ended line := by
  have marked : ∀ s : List Char, ∀ line ∈ pieces (s ++ ['\n']), pieces line = [line] ∧ Ended line :=
    fun s line hl => ⟨(isCut_pieces _).single hl, ended_of_mem_pieces (ended_append_newline s) hl⟩
  have shown : ∀ ls : List Line, (∀ line ∈ ls, pieces line = [line]) →
      ∀ line ∈ ls.map completed, pieces line = [line] ∧ Ended line := by
    intro ls hls line hl
    obtain ⟨plain, hplain, rfl⟩ := List.mem_map.1 hl
    exact ⟨pieces_completed (hls plain hplain), ended_completed plain⟩
  intro line hl
  rw [Region.lines, List.mem_append, List.mem_append, List.mem_append, List.mem_cons] at hl
  rcases hl with ((hl | hl) | rfl | hl) | hl
  · exact marked _ line hl
  · exact shown os hos line hl
  · exact ⟨pieces_append_newline (by decide), ended_append_newline dividerMark⟩
  · exact shown ts hts line hl
  · exact marked _ line hl

/-! ### Texts of regions -/

lemma flatMap_lines_eq_nil (differ : ∀ os ts, .disputed os ts ∈ rs → os ≠ ts)
    (hours : sideLines .ours rs = []) (htheirs : sideLines .theirs rs = []) :
    rs.flatMap (Region.lines labels) = [] := by
  induction rs with
  | nil => rfl
  | cons region rs ih =>
    rw [sideLines_cons, List.append_eq_nil_iff] at hours htheirs
    have rest := ih (fun os ts h => differ os ts (List.mem_cons_of_mem _ h)) hours.2 htheirs.2
    rw [List.flatMap_cons, rest, List.append_nil]
    cases region with
    | settled lines => exact hours.1
    | disputed os ts =>
      exact absurd (hours.1.trans htheirs.1.symm) (differ os ts List.mem_cons_self)

lemma isCut_lines (hours : IsCut (sideLines .ours rs)) (htheirs : IsCut (sideLines .theirs rs))
    (differ : ∀ os ts, .disputed os ts ∈ rs → os ≠ ts) :
    IsCut (rs.flatMap (Region.lines labels)) := by
  induction rs with
  | nil => exact isCut_nil
  | cons region rs ih =>
    rw [sideLines_cons, isCut_append_iff] at hours htheirs
    obtain ⟨hside, hrest, ended⟩ := hours
    obtain ⟨hside', hrest', ended'⟩ := htheirs
    have differ' : ∀ os ts, .disputed os ts ∈ rs → os ≠ ts :=
      fun os ts h => differ os ts (List.mem_cons_of_mem _ h)
    rw [List.flatMap_cons, isCut_append_iff]
    cases region with
    | settled lines =>
      refine ⟨hside, ih hrest hrest' differ', fun follows => ?_⟩
      -- What follows shows a line of one of the sides.
      by_cases none : sideLines .ours rs = []
      · exact ended' fun none' => follows (flatMap_lines_eq_nil differ' none none')
      · exact ended none
    | disputed os ts =>
      have hos : IsCut os := hside
      have hts : IsCut ts := hside'
      have lines := ended_of_mem_disputed (fun _ => hos.single) (fun _ => hts.single) labels
      exact ⟨isCut_of_ended lines, ih hrest hrest' differ', fun _ line hl => (lines line hl).2⟩

lemma isCut_preferring (hown : IsCut own) (hother : IsCut other)
    (length : own.length = other.length) : IsCut (preferring base own other) := by
  induction own generalizing base other with
  | nil => cases base <;> exact isCut_nil
  | cons o os ih =>
    obtain ⟨t, ts, rfl⟩ := List.exists_cons_of_length_eq_add_one length.symm
    obtain ⟨ho, ended, hos⟩ := isCut_cons_iff.1 hown
    obtain ⟨ht, ended', hts⟩ := isCut_cons_iff.1 hother
    have length := Nat.succ.inj length
    cases base with
    | nil => exact isCut_nil
    | cons b bs =>
      -- A line with others behind it has its newline, on whichever side it is.
      have nonempty : preferring bs os ts ≠ [] → os ≠ [] ∧ ts ≠ [] := by
        intro hne
        cases os with
        | nil => cases bs <;> exact absurd rfl hne
        | cons o' os =>
          obtain ⟨t', ts, rfl⟩ := List.exists_cons_of_length_eq_add_one length.symm
          exact ⟨List.cons_ne_nil _ _, List.cons_ne_nil _ _⟩
      rw [preferring, List.zipWith3, ← preferring, isCut_cons_iff]
      refine ⟨?_, fun hne => ?_, ih hos hts length⟩
      · split_ifs
        · exact ht
        · exact ho
      · obtain ⟨hno, hnt⟩ := nonempty hne
        split_ifs
        · exact ended' hnt
        · exact ended hno

lemma isCut_sideLines (hours : IsCut ours) (htheirs : IsCut theirs) (side : Side) :
    IsCut (sideLines side (regions base ours theirs)) := by
  rcases sideLines_cases side base ours theirs with (hside | hside) | ⟨aligned, hside | hside⟩
  · rwa [hside]
  · rwa [hside]
  · exact hside ▸ isCut_preferring hours htheirs (aligned.1.symm.trans aligned.2)
  · exact hside ▸ isCut_preferring htheirs hours (aligned.2.symm.trans aligned.1)

/-- **The lines of a merged text are those of its regions.** -/
theorem pieces_written (labels : Labels) (base ours theirs : String) :
    linesOf (written labels (textRegions base ours theirs)) =
      (textRegions base ours theirs).flatMap (Region.lines labels) := by
  have hours := isCut_pieces ours.toList
  have htheirs := isCut_pieces theirs.toList
  have cut : IsCut ((textRegions base ours theirs).flatMap (Region.lines labels)) :=
    isCut_lines (isCut_sideLines hours htheirs .ours) (isCut_sideLines hours htheirs .theirs)
      fun _ _ => ne_of_disputed
  rw [IsCut, flatten_flatMap_lines] at cut
  rw [linesOf, written, String.toList_ofList, cut]

end GitTutor.Merge
