import GitTutor.Proofs.Merge.View

/-!
Marks in merged texts.

Lines hold a whole conflict region where three lines with the marks stand among them in order
(`lineMarks_iff`); the first one of each kind is as good as any other. A merge that ends in
conflicts always writes such lines, whatever the texts and the labels are, and a clean one has none
if neither side has a line that opens a region.
-/

namespace GitTutor.Merge

open GitTutor.Text

variable {labels : Labels} {rs : List Region} {line : Line} {ls want os ts : List Line}

/-! ### Lines with marks -/

/-- To search on behind the first line of a kind is to search behind any of them. -/
lemma sublist_behind_iff {p : Line → Bool} (hwant : want ≠ []) :
    want.Sublist ((ls.dropWhile fun line => !p line).drop 1) ↔
      ∃ line, p line = true ∧ (line :: want).Sublist ls := by
  induction ls with
  | nil => simp [hwant]
  | cons l ls ih =>
    cases hp : p l with
    | true =>
      rw [List.dropWhile_cons_of_neg (by simp [hp]), List.drop_one, List.tail_cons]
      constructor
      · exact fun h => ⟨l, hp, h.cons_cons l⟩
      · rintro ⟨line, -, h⟩
        exact h.tail
    | false =>
      rw [List.dropWhile_cons_of_pos (by simp [hp]), ih]
      refine exists_congr fun line => and_congr_right fun hline => ⟨fun h => h.cons l, fun h => ?_⟩
      rcases List.sublist_cons_iff.1 h with h | ⟨rest, hrest, -⟩
      · exact h
      · obtain ⟨rfl, -⟩ := List.cons.inj hrest
        rw [hp] at hline
        cases hline

/-- Three lines with the marks, in order. -/
def Marked (ls : List Line) : Prop :=
  ∃ s d e, [s, d, e].Sublist ls ∧ startMark <+: s ∧ dividerMark <+: d ∧ endMark <+: e

lemma Marked.mono {ms : List Line} (h : Marked ls) (hls : ls.Sublist ms) : Marked ms := by
  obtain ⟨s, d, e, hsub, hs, hd, he⟩ := h
  exact ⟨s, d, e, hsub.trans hls, hs, hd, he⟩

lemma lineMarks_iff : lineMarks ls = true ↔ Marked ls := by
  have last : ∀ ms : List Line, (ms.any fun line => endMark.isPrefixOf line) = true ↔
      ∃ e, endMark <+: e ∧ [e].Sublist ms := by
    intro ms
    simp only [List.any_eq_true, List.isPrefixOf_iff_prefix, List.singleton_sublist, and_comm]
  rw [lineMarks, last]
  simp only [sublist_behind_iff (List.cons_ne_nil _ _), List.isPrefixOf_iff_prefix]
  constructor
  · rintro ⟨e, he, d, hd, s, hs, hsub⟩
    exact ⟨s, d, e, hsub, hs, hd, he⟩
  · rintro ⟨s, d, e, hsub, hs, hd, he⟩
    exact ⟨e, he, d, hd, s, hs, hsub⟩

lemma prefix_bareLine_iff {mark : List Char} (hnewline : '\n' ∉ mark) (hreturn : '\r' ∉ mark)
    (line : Line) : mark <+: bareLine line ↔ mark <+: line := by
  have dropped : ∀ {c : Char} {s t : List Char}, c ∉ mark → dropLast? c s = some t →
      (mark <+: t ↔ mark <+: s) := by
    intro c s t hc h
    rw [dropLast?] at h
    split_ifs at h with hlast
    obtain rfl := Option.some.inj h
    conv_rhs => rw [← List.dropLast_append_getLast? c hlast]
    rw [List.prefix_concat_iff]
    refine ⟨.inr, fun h => h.resolve_left ?_⟩
    rintro rfl
    exact hc (by simp)
  rw [bareLine]
  cases hn : dropLast? '\n' line with
  | none => rfl
  | some rest =>
    rw [← dropped hnewline hn]
    change mark <+: (dropLast? '\r' rest).getD rest ↔ _
    cases hr : dropLast? '\r' rest with
    | none => rfl
    | some body => exact dropped hreturn hr

lemma marked_map_bareLine_iff : Marked (ls.map bareLine) ↔ Marked ls := by
  have same : ∀ mark ∈ [startMark, dividerMark, endMark], ∀ line,
      mark <+: bareLine line ↔ mark <+: line := by
    have hreturn : ∀ mark ∈ [startMark, dividerMark, endMark], '\r' ∉ mark := by decide
    exact fun mark hmark =>
      prefix_bareLine_iff (newline_not_mem_mark mark hmark) (hreturn mark hmark)
  have hstart := same startMark (by simp)
  have hdivider := same dividerMark (by simp)
  have hend := same endMark (by simp)
  constructor
  · rintro ⟨s, d, e, hsub, hs, hd, he⟩
    obtain ⟨whole, hwhole, hmap⟩ := List.sublist_map_iff.1 hsub
    match whole, hmap with
    | [s', d', e'], hmap =>
      obtain ⟨rfl, rfl, rfl⟩ : s = bareLine s' ∧ d = bareLine d' ∧ e = bareLine e' := by
        simpa using hmap
      exact ⟨s', d', e', hwhole, (hstart s').1 hs, (hdivider d').1 hd, (hend e').1 he⟩
  · rintro ⟨s, d, e, hsub, hs, hd, he⟩
    exact ⟨_, _, _, hsub.map bareLine, (hstart s).2 hs, (hdivider d).2 hd, (hend e).2 he⟩

/-- **A text holds a conflict region where its lines have the marks in order.** -/
lemma hasMarks_iff {text : String} : hasMarks text = true ↔ Marked (linesOf text) := by
  rw [hasMarks, lineMarks_iff, lines, marked_map_bareLine_iff]

/-! ### Merged texts -/

lemma exists_pieces_eq_cons {mark : List Char} (hnewline : '\n' ∉ mark) (nonempty : mark ≠ [])
    (s : List Char) : ∃ line rest, pieces (mark ++ s) = line :: rest ∧ mark <+: line := by
  by_cases hs : '\n' ∈ s
  · obtain ⟨body, rest, rfl, hbody⟩ := List.eq_append_cons_of_mem hs
    have hline : '\n' ∉ mark ++ body := by simp [hnewline, hbody]
    rw [← List.append_assoc, pieces_unbroken_append hline, List.append_assoc]
    exact ⟨_, _, rfl, List.prefix_append _ _⟩
  · have hline : '\n' ∉ mark ++ s := by simp [hnewline, hs]
    rw [pieces_of_unbroken (by simp [nonempty]) hline]
    exact ⟨_, _, rfl, List.prefix_append _ _⟩

lemma exists_piece_of_mark {mark : List Char} (hnewline : '\n' ∉ mark) (nonempty : mark ≠ [])
    (s : List Char) : ∃ line ∈ pieces (mark ++ s), mark <+: line := by
  obtain ⟨line, rest, hs, hmark⟩ := exists_pieces_eq_cons hnewline nonempty s
  exact ⟨line, hs ▸ List.mem_cons_self, hmark⟩

lemma marked_dispute (labels : Labels) (os ts : List Line) :
    Marked ((Region.disputed os ts).lines labels) := by
  obtain ⟨s, hs, hstart⟩ := exists_piece_of_mark (newline_not_mem_mark startMark (by simp))
    (by decide) (' ' :: labels.ours.toList ++ ['\n'])
  obtain ⟨e, he, hend⟩ := exists_piece_of_mark (newline_not_mem_mark endMark (by simp))
    (by decide) (' ' :: labels.theirs.toList ++ ['\n'])
  rw [← List.append_assoc] at hs he
  refine ⟨s, dividerLine, e, ?_, hstart, List.prefix_append _ _, hend⟩
  have opens : [s].Sublist (pieces (startLine labels) ++ os.map completed) :=
    (List.singleton_sublist.2 hs).trans (List.sublist_append_left _ _)
  have divides : [dividerLine].Sublist (dividerLine :: ts.map completed) :=
    List.singleton_sublist.2 List.mem_cons_self
  exact (opens.append divides).append (List.singleton_sublist.2 he)

lemma hasMarks_of_conflict {base ours theirs text : String}
    (h : mergeText labels base ours theirs = .conflict text) : hasMarks text = true := by
  obtain ⟨disputed, rfl⟩ := mergeText_eq_conflict_iff.1 h
  rw [hasMarks_iff, pieces_written]
  obtain ⟨region, hregion, hdisputed⟩ := List.any_eq_true.1 disputed
  cases region with
  | settled lines => cases hdisputed
  | disputed os ts =>
    refine (marked_dispute labels os ts).mono ?_
    rw [List.flatMap_def]
    exact List.sublist_flatten_of_mem (List.mem_map_of_mem hregion)

/-- No line of the text opens a conflict region. -/
def Unopened (text : String) : Prop := ∀ line ∈ linesOf text, ¬startMark <+: line

instance (text : String) : Decidable (Unopened text) :=
  inferInstanceAs (Decidable (∀ line ∈ linesOf text, ¬startMark <+: line))

lemma hasMarks_of_unopened {text : String} (h : Unopened text) : hasMarks text = false := by
  rw [← Bool.not_eq_true, hasMarks_iff]
  rintro ⟨s, d, e, hsub, hs, -⟩
  exact h s (hsub.subset List.mem_cons_self) hs

lemma unopened_of_clean {base ours theirs text : String} (hours : Unopened ours)
    (htheirs : Unopened theirs) (h : mergeText labels base ours theirs = .clean text) :
    Unopened text := by
  obtain ⟨agreed, rfl⟩ := mergeText_eq_clean_iff.1 h
  intro line hl
  rw [pieces_written, flatMap_lines_of_agreed labels .ours (by simpa using agreed)] at hl
  exact (mem_of_mem_sideLines hl).elim (hours line) (htheirs line)

/-- **Conflict texts can always be told by their marks.** The text of a merge with conflicts holds
a conflict region, and where no side has a line that opens one, the texts of other merges hold
none. -/
theorem conflicts_recognizable (labels : Labels) (base ours theirs : String) :
    (∀ text, mergeText labels base ours theirs = .conflict text → hasMarks text = true) ∧
      (Unopened ours → Unopened theirs → hasMarks (mergeText labels base ours theirs).text =
        (mergeText labels base ours theirs).isConflict) := by
  refine ⟨fun text => hasMarks_of_conflict, fun hours htheirs => ?_⟩
  cases h : mergeText labels base ours theirs with
  | clean text => exact hasMarks_of_unopened (unopened_of_clean hours htheirs h)
  | conflict text => exact hasMarks_of_conflict h

/-- Both sides have changed a line that lacks its newline, and then only one of them has. -/
theorem conflicts_recognizable_unended :
    mergeText ⟨"HEAD", "b"⟩ "a" "x" "y" = .conflict "<<<<<<< HEAD\nx\n=======\ny\n>>>>>>> b\n" ∧
      hasMarks "<<<<<<< HEAD\nx\n=======\ny\n>>>>>>> b\n" = true ∧
      Unopened "x" ∧ Unopened "a" ∧ mergeText ⟨"HEAD", "b"⟩ "a" "x" "a" = .clean "x" ∧
      hasMarks (mergeText ⟨"HEAD", "b"⟩ "a" "x" "a").text =
        (mergeText ⟨"HEAD", "b"⟩ "a" "x" "a").isConflict := by
  have conflict : mergeText ⟨"HEAD", "b"⟩ "a" "x" "y" =
      .conflict "<<<<<<< HEAD\nx\n=======\ny\n>>>>>>> b\n" := by
    decide +kernel
  have ours : Unopened "x" := by decide +kernel
  have theirs : Unopened "a" := by decide +kernel
  exact ⟨conflict, (conflicts_recognizable _ _ _ _).1 _ conflict, ours, theirs, by decide +kernel,
    (conflicts_recognizable _ _ _ _).2 ours theirs⟩

end GitTutor.Merge
