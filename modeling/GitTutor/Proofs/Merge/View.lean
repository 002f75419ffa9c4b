import GitTutor.Proofs.Merge.Written
import Mathlib.Data.List.Forall2

/-!
A merged text as each side sees it.

`view` reads a merged text on behalf of one side. Outside of disputes it keeps every line, from a
dispute it keeps the lines of that side alone, and it drops the lines with marks. Read in this way
a merge loses no edit (`KeepsEdits`): of texts with equally many lines, each side sees all lines
that it has changed, and in place of the others those of the other side; of other texts, each side
sees its own text as a whole, or the merge is one of the two texts.
-/

namespace GitTutor.Merge

open GitTutor.Text

/-- Where a line of a merged text stands. -/
inductive Place where
  | outside
  | ours
  | theirs
  deriving DecidableEq

namespace Place

/-- The mark that ends a place. -/
def mark : Place → List Char
  | outside => startMark
  | ours => dividerMark
  | theirs => endMark

def next : Place → Place
  | outside => ours
  | ours => theirs
  | theirs => outside

/-- Whether a side keeps the lines of a place. -/
def shows : Place → Side → Bool
  | outside, _ => true
  | ours, side => side = .ours
  | theirs, side => side = .theirs

end Place

/-- The lines that a side keeps of a merged text, read from a place on. -/
def view (side : Side) : Place → List Line → List Line
  | _, [] => []
  | place, line :: rest =>
    if place.mark.isPrefixOf line then view side place.next rest
    else if place.shows side then line :: view side place rest
    else view side place rest

namespace MergedText

def text : MergedText → String
  | clean text => text
  | conflict text => text

def isConflict : MergedText → Bool
  | clean _ => false
  | conflict _ => true

/-- The lines of a merged text that a side keeps. -/
def view (side : Side) (result : MergedText) : List Line :=
  Merge.view side .outside (linesOf result.text)

end MergedText

variable {labels : Labels} {side : Side} {place : Place} {rs : List Region} {line : Line}
  {ls rest : List Line}

/-! ### Reading regions -/

lemma view_mark (h : place.mark <+: line) :
    view side place (line :: rest) = view side place.next rest := by
  rw [view, if_pos (List.isPrefixOf_iff_prefix.2 h)]

lemma view_append (h : ∀ line ∈ ls, ¬place.mark <+: line) :
    view side place (ls ++ rest) =
      (if place.shows side then ls else []) ++ view side place rest := by
  induction ls with
  | nil => simp
  | cons line ls ih =>
    obtain ⟨hline, hls⟩ := List.forall_mem_cons.1 h
    rw [List.cons_append, view, if_neg (mt List.isPrefixOf_iff_prefix.1 hline), ih hls]
    split_ifs <;> rfl

/-- No mark begins the line. -/
def Unmarked (line : Line) : Prop := ∀ mark ∈ [startMark, dividerMark, endMark], ¬mark <+: line

instance (line : Line) : Decidable (Unmarked line) :=
  inferInstanceAs (Decidable (∀ mark ∈ _, ¬mark <+: line))

lemma Unmarked.of_place (h : Unmarked line) (place : Place) : ¬place.mark <+: line := by
  cases place <;> exact h _ (by simp [Place.mark])

lemma newline_not_mem_mark : ∀ mark ∈ [startMark, dividerMark, endMark], '\n' ∉ mark := by
  decide

lemma Unmarked.completed (h : Unmarked line) : Unmarked (completed line) := by
  unfold Merge.completed
  split_ifs
  · exact h
  · intro mark hmark hprefix
    rcases List.prefix_concat_iff.1 hprefix with rfl | hprefix
    · exact newline_not_mem_mark _ hmark (by simp)
    · exact h mark hmark hprefix

/-- The lines of a region that a side keeps, those of a dispute with newlines. -/
def Region.shown (side : Side) : Region → List Line
  | .settled lines => lines
  | region => (region.side side).map completed

lemma pieces_labelled {mark label : List Char} (hmark : '\n' ∉ mark) (hlabel : '\n' ∉ label) :
    pieces (mark ++ ' ' :: label ++ ['\n']) = [mark ++ ' ' :: label ++ ['\n']] :=
  pieces_append_newline (by simp [hmark, hlabel])

lemma view_dispute (labels : Labels) (side : Side) {os ts : List Line}
    (hos : ∀ line ∈ os, ¬dividerMark <+: line) (hts : ∀ line ∈ ts, ¬endMark <+: line) :
    view side .outside (startLine labels :: (os ++ dividerLine :: (ts ++ endLine labels :: rest))) =
      (match side with
        | .ours => os
        | .theirs => ts) ++ view side .outside rest := by
  have start : Place.mark .outside <+: startLine labels := by
    rw [startLine, List.append_assoc]
    exact List.prefix_append _ _
  have divide : Place.mark .ours <+: dividerLine := List.prefix_append _ _
  have finish : Place.mark .theirs <+: endLine labels := by
    rw [endLine, List.append_assoc]
    exact List.prefix_append _ _
  rw [view_mark start, Place.next, view_append hos, view_mark divide, Place.next,
    view_append hts, view_mark finish, Place.next]
  cases side <;> simp [Place.shows]

lemma view_lines (hours : '\n' ∉ labels.ours.toList) (htheirs : '\n' ∉ labels.theirs.toList)
    (unmarked : ∀ side, ∀ line ∈ sideLines side rs, Unmarked line) (side : Side) :
    view side .outside (rs.flatMap (Region.lines labels)) = rs.flatMap (Region.shown side) := by
  induction rs with
  | nil => rfl
  | cons region rs ih =>
    have here : ∀ side, ∀ line ∈ region.side side, Unmarked line := fun side line hl =>
      unmarked side line (List.mem_append_left _ hl)
    have ih := ih fun side line hl => unmarked side line (List.mem_append_right _ hl)
    rw [List.flatMap_cons, List.flatMap_cons, ← ih]
    cases region with
    | settled lines => exact view_append fun line hl => (here side line hl).of_place .outside
    | disputed os ts =>
      have start : pieces (startLine labels) = [startLine labels] :=
        pieces_labelled (newline_not_mem_mark _ (by simp)) hours
      have finish : pieces (endLine labels) = [endLine labels] :=
        pieces_labelled (newline_not_mem_mark _ (by simp)) htheirs
      have plain : ∀ (place : Place) (ls : List Line), (∀ line ∈ ls, Unmarked line) →
          ∀ line ∈ ls.map completed, ¬place.mark <+: line := by
        intro place ls hls line hl
        obtain ⟨bare, hbare, rfl⟩ := List.mem_map.1 hl
        exact (hls bare hbare).completed.of_place place
      have layout : (Region.disputed os ts).lines labels ++ rs.flatMap (Region.lines labels) =
          startLine labels :: (os.map completed ++ dividerLine ::
            (ts.map completed ++ endLine labels :: rs.flatMap (Region.lines labels))) := by
        simp [Region.lines, start, finish]
      rw [layout, view_dispute labels side (plain .ours os (here .ours))
        (plain .theirs ts (here .theirs))]
      cases side <;> rfl

/-! ### Lines with and without their newline -/

/-- The lines are shown as they are, or with the newline that the last one may lack. -/
def UpToEnd (shown lines : List Line) : Prop := shown = lines ∨ shown = lines.map completed

/-- In a text, a line can gain a newline only at the end. -/
lemma upToEnd_of_forall₂ {shown lines : List Line}
    (h : List.Forall₂ (fun s line => s = line ∨ s = completed line) shown lines)
    (cut : IsCut lines) : UpToEnd shown lines := by
  induction h with
  | nil => exact .inl rfl
  | @cons s line shown lines hs hrest ih =>
    obtain ⟨-, ended, hlines⟩ := isCut_cons_iff.1 cut
    rcases eq_or_ne lines [] with rfl | hne
    · obtain rfl := List.forall₂_nil_right_iff.1 hrest
      rcases hs with rfl | rfl
      · exact .inl rfl
      · exact .inr rfl
    · have complete : completed line = line := completed_of_ended (ended hne)
      obtain rfl : s = line := hs.elim id fun hs => hs.trans complete
      rcases ih hlines with rfl | rfl
      · exact .inl rfl
      · exact .inr (by rw [List.map_cons, complete])

lemma forall₂_shown (side : Side) (rs : List Region) :
    List.Forall₂ (fun s line => s = line ∨ s = completed line) (rs.flatMap (Region.shown side))
      (sideLines side rs) := by
  induction rs with
  | nil => exact .nil
  | cons region rs ih =>
    rw [List.flatMap_cons, sideLines_cons]
    refine List.rel_append ?_ ih
    cases region with
    | settled lines => exact List.forall₂_same.2 fun line _ => .inl rfl
    | disputed os ts =>
      exact List.forall₂_map_left_iff.2 (List.forall₂_same.2 fun line _ => .inr rfl)

/-! ### Merged texts -/

lemma text_mergeText (labels : Labels) (base ours theirs : String) :
    (mergeText labels base ours theirs).text = written labels (textRegions base ours theirs) := by
  rw [mergeText_eq]
  split_ifs <;> rfl

lemma isConflict_mergeText (labels : Labels) (base ours theirs : String) :
    (mergeText labels base ours theirs).isConflict =
      (textRegions base ours theirs).any Region.isDisputed := by
  rw [mergeText_eq]
  split_ifs with disputed
  · exact disputed.symm
  · exact (Bool.not_eq_true _ ▸ disputed).symm

lemma view_mergeText (hours : '\n' ∉ labels.ours.toList) (htheirs : '\n' ∉ labels.theirs.toList)
    (base : String) {ours theirs : String} (unmarked : ∀ line ∈ linesOf ours, Unmarked line)
    (unmarked' : ∀ line ∈ linesOf theirs, Unmarked line) (side : Side) :
    UpToEnd ((mergeText labels base ours theirs).view side)
      (sideLines side (textRegions base ours theirs)) := by
  have plain : ∀ side, ∀ line ∈ sideLines side (textRegions base ours theirs), Unmarked line :=
    fun side line hl => (mem_of_mem_sideLines hl).elim (unmarked line) (unmarked' line)
  rw [MergedText.view, text_mergeText, pieces_written, view_lines hours htheirs plain]
  exact upToEnd_of_forall₂ (forall₂_shown side _)
    (isCut_sideLines (isCut_pieces _) (isCut_pieces _) side)

/-- What a merge keeps of the edits of its sides. Lines are compared with their newlines. -/
structure KeepsEdits (base ours theirs : String) (result : MergedText) : Prop where
  aligned_ours : Aligned (linesOf base) (linesOf ours) (linesOf theirs) →
    UpToEnd (result.view .ours) (preferring (linesOf base) (linesOf ours) (linesOf theirs))
  aligned_theirs : Aligned (linesOf base) (linesOf ours) (linesOf theirs) →
    UpToEnd (result.view .theirs) (preferring (linesOf base) (linesOf theirs) (linesOf ours))
  aligned_conflict : Aligned (linesOf base) (linesOf ours) (linesOf theirs) →
    (result.isConflict = true ↔ ∃ i : Nat, (linesOf ours)[i]? ≠ (linesOf theirs)[i]? ∧
      (linesOf theirs)[i]? ≠ (linesOf base)[i]? ∧ (linesOf ours)[i]? ≠ (linesOf base)[i]?)
  uneven_clean : ¬Aligned (linesOf base) (linesOf ours) (linesOf theirs) →
    ∀ text, result = .clean text → text = ours ∨ text = theirs
  uneven_conflict : ¬Aligned (linesOf base) (linesOf ours) (linesOf theirs) →
    ∀ text, result = .conflict text →
      UpToEnd (result.view .ours) (linesOf ours) ∧ UpToEnd (result.view .theirs) (linesOf theirs)

lemma sideLines_of_uneven {base ours theirs : List Line} (uneven : ¬Aligned base ours theirs)
    (disputed : (regions base ours theirs).any Region.isDisputed = true) :
    sideLines .ours (regions base ours theirs) = ours ∧
      sideLines .theirs (regions base ours theirs) = theirs := by
  rw [regions_of_uneven uneven] at disputed ⊢
  rcases byBlock_cases base ours theirs with
    ⟨top, o, t, bottom, hblock, hours, htheirs, -⟩ | ⟨top, block, bottom, hblock, -⟩
  · rw [hblock, hours, htheirs]
    simp [Region.side]
  · rw [hblock] at disputed
    cases disputed

lemma written_of_uneven {base ours theirs : String}
    (uneven : ¬Aligned (linesOf base) (linesOf ours) (linesOf theirs))
    (agreed : (textRegions base ours theirs).any Region.isDisputed = false) :
    written labels (textRegions base ours theirs) = ours ∨
      written labels (textRegions base ours theirs) = theirs := by
  rw [written, render_of_agreed labels .ours (by simpa using agreed), textRegions,
    regions_of_uneven uneven]
  rcases sideLines_byBlock (linesOf base) (linesOf ours) (linesOf theirs) with h | h
  · rw [h, flatten_pieces, String.ofList_toList]
    exact .inl rfl
  · rw [h, flatten_pieces, String.ofList_toList]
    exact .inr rfl

/-- **A merge loses no edit.** Where labels have no newlines and no line of a side begins with a
mark, each side sees in the merged text what `KeepsEdits` says. -/
theorem no_edit_lost {labels : Labels} (hours : '\n' ∉ labels.ours.toList)
    (htheirs : '\n' ∉ labels.theirs.toList) (base : String) {ours theirs : String}
    (unmarked : ∀ line ∈ linesOf ours, Unmarked line)
    (unmarked' : ∀ line ∈ linesOf theirs, Unmarked line) :
    KeepsEdits base ours theirs (mergeText labels base ours theirs) := by
  have seen := view_mergeText hours htheirs base unmarked unmarked'
  refine ⟨fun aligned => ?_, fun aligned => ?_, fun aligned => ?_, fun uneven text hclean => ?_,
    fun uneven text hconflict => ?_⟩
  · have := seen .ours
    rwa [textRegions, regions_of_aligned aligned, sideLines_byLine] at this
  · have := seen .theirs
    rwa [textRegions, sideLines_theirs, regions_of_aligned aligned.exchanged, sideLines_byLine]
      at this
  · rw [isConflict_mergeText, textRegions, regions_of_aligned aligned]
    exact any_byLine aligned
  · obtain ⟨agreed, rfl⟩ := mergeText_eq_clean_iff.1 hclean
    exact written_of_uneven uneven agreed
  · obtain ⟨disputed, -⟩ := mergeText_eq_conflict_iff.1 hconflict
    obtain ⟨one, other⟩ := sideLines_of_uneven uneven disputed
    have onSeen := seen .ours
    have otherSeen := seen .theirs
    rw [textRegions, one] at onSeen
    rw [textRegions, other] at otherSeen
    exact ⟨onSeen, otherSeen⟩

/-- Each side has a line of its own, and both have changed the last one, which lacks its newline. -/
theorem no_edit_lost_unended :
    '\n' ∉ "HEAD".toList ∧ '\n' ∉ "b".toList ∧ (∀ line ∈ linesOf "x\nb\nm", Unmarked line) ∧
      (∀ line ∈ linesOf "a\ny\nn", Unmarked line) ∧
      mergeText ⟨"HEAD", "b"⟩ "a\nb\nc" "x\nb\nm" "a\ny\nn" =
        .conflict "x\ny\n<<<<<<< HEAD\nm\n=======\nn\n>>>>>>> b\n" ∧
      KeepsEdits "a\nb\nc" "x\nb\nm" "a\ny\nn"
        (mergeText ⟨"HEAD", "b"⟩ "a\nb\nc" "x\nb\nm" "a\ny\nn") := by
  have hours : '\n' ∉ "HEAD".toList := by decide +kernel
  have htheirs : '\n' ∉ "b".toList := by decide +kernel
  have unmarked : ∀ line ∈ linesOf "x\nb\nm", Unmarked line := by decide +kernel
  have unmarked' : ∀ line ∈ linesOf "a\ny\nn", Unmarked line := by decide +kernel
  exact ⟨hours, htheirs, unmarked, unmarked', by decide +kernel,
    no_edit_lost hours htheirs "a\nb\nc" unmarked unmarked'⟩

end GitTutor.Merge
