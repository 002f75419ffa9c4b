import GitTutor.Hint
import GitTutor.Proofs.Text.Search
import GitTutor.Proofs.Text.Trimming

/-!
Hints on their way through a reply.

A hint is put into the text of a reply between two marks, and what reads the reply looks for the
marks. Neither mark has a newline, and both stand on lines of their own, so that no mark can begin
in the reply or in a line of the hint and end elsewhere. What is read is then what was put there, up
to blanks at the ends.
-/

namespace GitTutor

open Text

namespace Hint

variable {reply : String} {lines : List String}

lemma newline_not_mem_marks : '\n' ∉ startMark ∧ '\n' ∉ endMark := by decide

/-- What is read from a block with these lines. -/
def told (lines : List String) : Option String :=
  let text := trim ("\n".intercalate lines).toList
  if text.isEmpty then none else some (String.ofList text)

lemma cut_startMark_join (unopened : ¬startMark <:+: reply.toList) (lines : List String) :
    ∃ before, cut startMark (join reply lines).toList =
        some (before, '\n' :: ("\n".intercalate lines).toList ++ '\n' :: endMark) ∧
      trimEnd before = trimEnd reply.toList := by
  by_cases empty : reply = ""
  · subst empty
    refine ⟨[], ?_, rfl⟩
    have laid : (join "" lines).toList =
        startMark ++ ('\n' :: ("\n".intercalate lines).toList ++ '\n' :: endMark) :=
      String.toList_ofList
    rw [laid, cut_self_append (by decide)]
  · have lacks := newline_not_mem_marks.1
    refine ⟨reply.toList ++ ['\n'] ++ ['\n'], ?_, ?_⟩
    · have absent : ¬startMark <:+: reply.toList ++ ['\n'] := by
        rw [infix_append_cons_iff lacks]
        exact not_or.2 ⟨unopened, by decide⟩
      have laid : (join reply lines).toList = reply.toList ++ ['\n'] ++ '\n' :: (startMark ++
          ('\n' :: ("\n".intercalate lines).toList ++ '\n' :: endMark)) := by
        rw [join, if_neg (by simpa using empty), String.toList_append, String.toList_append,
          String.toList_ofList, block]
        simp
      rw [laid, cut_append_cons lacks (by decide) absent]
    · rw [trimEnd_append_of_allBlank _ (by decide), trimEnd_append_of_allBlank _ (by decide)]

lemma cut_endMark_block (unclosed : ∀ line ∈ lines, ¬endMark <:+: line.toList) :
    cut endMark ('\n' :: ("\n".intercalate lines).toList ++ '\n' :: endMark) =
      some ('\n' :: ("\n".intercalate lines).toList ++ ['\n'], []) := by
  have lacks := newline_not_mem_marks.2
  have absent : ¬endMark <:+: '\n' :: ("\n".intercalate lines).toList := by
    have joined : ("\n".intercalate lines).toList = ['\n'].intercalate (lines.map String.toList) :=
      String.toList_intercalate
    rw [← List.nil_append ('\n' :: _), infix_append_cons_iff lacks, joined,
      infix_intercalate_iff lacks (by decide)]
    rintro (nowhere | ⟨text, htext, closed⟩)
    · exact absurd nowhere (by decide)
    · obtain ⟨line, hline, rfl⟩ := List.mem_map.1 htext
      exact unclosed line hline closed
  have cut := cut_append_cons lacks (by decide) absent []
  rwa [List.append_nil] at cut

lemma split_join (unopened : ¬startMark <:+: reply.toList)
    (unclosed : ∀ line ∈ lines, ¬endMark <:+: line.toList) :
    split (join reply lines) = (String.ofList (trimEnd reply.toList), told lines) := by
  obtain ⟨before, start, trimmed⟩ := cut_startMark_join unopened lines
  have inner : trim ('\n' :: ("\n".intercalate lines).toList ++ ['\n']) =
      trim ("\n".intercalate lines).toList := by
    rw [trim_append_of_allBlank _ (by decide), trim_cons_of_isBlank _ (by decide)]
  rw [split, start]
  simp only [cut_endMark_block unclosed, inner, trimmed]
  rfl

lemma split_of_unopened (unopened : ¬startMark <:+: reply.toList) :
    split reply = (reply, none) := by
  have nowhere : cut startMark reply.toList = none := by
    rw [← Option.not_isSome_iff_eq_none, ← contains, contains_iff]
    exact unopened
  rw [split, nowhere]

end Hint

namespace HintLog

open Hint

/-- **Splitting undoes attaching.** For a reply without an opening mark, the hint of a key that has
not been shown is split off again as it was, if its lines have no closing mark, and the reply has
lost nothing but blanks at its end. From then on the key counts as shown. A hint that has been shown
and a hint without lines change neither the reply nor the log, and nothing is split off. -/
theorem split_attach (log : HintLog) (key : String) {reply : String}
    (unopened : ¬startMark <:+: reply.toList) (lines : List String) :
    (log.isShown key = false → lines ≠ [] → (∀ line ∈ lines, ¬endMark <:+: line.toList) →
      split (log.attach key reply lines).1 = (String.ofList (trimEnd reply.toList), told lines) ∧
        (log.attach key reply lines).2.isShown key = true) ∧
    (log.isShown key = true ∨ lines = [] →
      log.attach key reply lines = (reply, log) ∧
        split (log.attach key reply lines).1 = (reply, none)) := by
  constructor
  · intro unseen nonempty unclosed
    have attached : log.attach key reply lines = (join reply lines, ⟨key :: log.shown⟩) := by
      rw [attach, unseen, Bool.or_false, if_neg (by simpa using nonempty)]
    rw [attached]
    exact ⟨split_join unopened unclosed, by simp [isShown]⟩
  · intro done
    have kept : log.attach key reply lines = (reply, log) := by
      rw [attach, if_pos]
      rcases done with seen | rfl
      · rw [seen, Bool.or_true]
      · rfl
    rw [kept]
    exact ⟨rfl, split_of_unopened unopened⟩

/-- The reply ends in blanks and has a closing mark, and the lines have blanks around them and an
opening mark. -/
theorem split_attach_blanks :
    ¬startMark <:+: "done [[HINT_END]] \n".toList ∧
      split (HintLog.empty.attach "add" "done [[HINT_END]] \n" [" a", "[[HINT_START]]", ""]).1 =
        ("done [[HINT_END]]", some "a\n[[HINT_START]]") ∧
      split ((⟨["add"]⟩ : HintLog).attach "add" "done [[HINT_END]] \n" ["b"]).1 =
        ("done [[HINT_END]] \n", none) := by
  have unopened : ¬startMark <:+: "done [[HINT_END]] \n".toList := by decide +kernel
  have first := (split_attach .empty "add" unopened [" a", "[[HINT_START]]", ""]).1 rfl (by simp)
    (by decide +kernel)
  have again := (split_attach ⟨["add"]⟩ "add" unopened ["b"]).2 (.inl (by decide +kernel))
  refine ⟨unopened, ?_, again.2⟩
  rw [first.1]
  decide +kernel

end HintLog

end GitTutor
