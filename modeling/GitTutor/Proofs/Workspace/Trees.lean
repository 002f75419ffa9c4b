import GitTutor.Repository.Merge
import GitTutor.Proofs.Merge.Exchange
import GitTutor.Proofs.Table.Within

/-!
What statuses, swaps and merges of trees do path by path.
-/

namespace GitTutor

/-! ### Statuses -/

lemma FileStatus.ofContents_eq_deleted_iff {head index file : Option String} :
    FileStatus.ofContents head index file = some .deleted ↔
      file = none ∧ (head ≠ none ∨ index ≠ none) := by
  cases head <;> cases index <;> cases file <;> simp [FileStatus.ofContents]
  all_goals
    split <;> simp

lemma FileStatus.ofContents_eq_none_iff {head index file : Option String} :
    FileStatus.ofContents head index file = none ↔ head = index ∧ index = file := by
  cases head <;> cases index <;> cases file <;> simp [FileStatus.ofContents]
  rename_i h i f
  by_cases hif : i = f <;> by_cases hhi : h = i <;> simp [hif, hhi]

lemma FileStatus.ofContents_ne_conflicted (head index file : Option String) :
    FileStatus.ofContents head index file ≠ some .conflicted := by
  cases head <;> cases index <;> cases file <;> simp only [FileStatus.ofContents] <;>
    (repeat' split) <;> simp

namespace Repository

variable {r : Repository} {files : Tree}

lemma get?_status_of_settled {path : String} (settled : r.conflicts.contains path = false) :
    (r.status files).get? path = FileStatus.ofContents (r.headTree.get? path) (r.index.get? path)
      (files.get? path) := by
  simp only [status, NameSet.union, Table.get?_pick, Table.get?_overlay, Table.get?_nameSet,
    settled, Bool.false_eq_true, if_false]
  cases r.headTree.get? path <;> cases r.index.get? path <;> cases files.get? path <;> rfl

lemma get?_status (calm : r.conflicts = ∅) (path : String) :
    (r.status files).get? path = FileStatus.ofContents (r.headTree.get? path) (r.index.get? path)
      (files.get? path) :=
  get?_status_of_settled (by rw [calm, Table.contains_empty])

lemma trees_of_status_eq_empty (calm : r.conflicts = ∅) (h : r.status files = ∅) :
    r.headTree = r.index ∧ r.index = files := by
  have same (path : String) : r.headTree.get? path = r.index.get? path ∧
      r.index.get? path = files.get? path := by
    rw [← FileStatus.ofContents_eq_none_iff, ← get?_status calm, h, Table.get?_empty]
  exact ⟨Table.ext fun path => (same path).1, Table.ext fun path => (same path).2⟩

lemma get?_status_of_conflict {path : String} {status : FileStatus}
    (conflict : r.conflicts.contains path = true) (h : (r.status files).get? path = some status) :
    status = .conflicted := by
  simp only [Repository.status, Table.get?_pick, conflict, if_true, Option.bind_eq_some_iff] at h
  obtain ⟨_, -, h⟩ := h
  exact (Option.some.inj h).symm

lemma mem_trackedChanges {path : String} :
    path ∈ r.trackedChanges files ↔
      ∃ status, (r.status files).get? path = some status ∧ status ≠ .untracked := by
  simp only [trackedChanges, List.mem_map, List.mem_filter, decide_eq_true_eq, Prod.exists]
  constructor
  · rintro ⟨_, _, ⟨hmem, hs⟩, rfl⟩
    exact ⟨_, Entries.find_of_mem (r.status files).sorted hmem, hs⟩
  · rintro ⟨status, hget, hs⟩
    exact ⟨path, status, ⟨Entries.mem_of_find hget, hs⟩, rfl⟩

lemma eq_of_clean (calm : r.conflicts = ∅) (clean : r.trackedChanges files = []) {path : String}
    {content : String} (h : r.index.get? path = some content) :
    r.headTree.get? path = some content ∧ files.get? path = some content := by
  have hs : ∀ status, (r.status files).get? path = some status → status = .untracked := by
    intro status hget
    by_contra hne
    have : path ∈ r.trackedChanges files := mem_trackedChanges.2 ⟨status, hget, hne⟩
    rw [clean] at this
    exact absurd this List.not_mem_nil
  rw [get?_status calm, h] at hs
  -- Any difference between the three contents would be another status than `untracked`.
  cases hh : r.headTree.get? path with
  | none =>
    cases hf : files.get? path with
    | none => simp [hh, hf, FileStatus.ofContents] at hs
    | some f =>
      simp only [hh, hf, FileStatus.ofContents, Option.some.injEq] at hs
      have := hs _ rfl
      split at this <;> cases this
  | some c =>
    cases hf : files.get? path with
    | none => simp [hh, hf, FileStatus.ofContents] at hs
    | some f =>
      simp only [hh, hf, FileStatus.ofContents] at hs
      by_cases hif : content = f
      · by_cases hci : c = content
        · exact ⟨by rw [hci], by rw [hif]⟩
        · simp [hif, hif ▸ hci] at hs
      · simp [hif] at hs

lemma trackedChanges_eq_nil (calm : r.conflicts = ∅) (staged : r.headTree = r.index)
    (same : ∀ path content, r.index.get? path = some content → files.get? path = some content) :
    r.trackedChanges files = [] := by
  rw [List.eq_nil_iff_forall_not_mem]
  intro path hmem
  obtain ⟨status, hget, hs⟩ := mem_trackedChanges.1 hmem
  rw [get?_status calm, staged] at hget
  cases hi : r.index.get? path with
  | some content =>
    rw [hi, same path content hi] at hget
    simp [FileStatus.ofContents] at hget
  | none =>
    rw [hi] at hget
    cases hf : files.get? path with
    | none =>
      rw [hf] at hget
      cases hget
    | some found =>
      rw [hf] at hget
      exact hs (Option.some.inj hget).symm

end Repository

/-! ### Swaps -/

lemma mem_inTheWay_iff {files old incoming : Tree} {path : String} :
    path ∈ inTheWay files old incoming ↔ ∃ content found, incoming.get? path = some content ∧
      files.get? path = some found ∧ old.contains path = false ∧ found ≠ content := by
  rw [inTheWay, Table.mem_names_iff, Table.contains_iff]
  simp only [Table.get?_pick]
  cases hin : incoming.get? path with
  | none => simp
  | some content =>
    cases hf : files.get? path with
    | none => simp
    | some found => simp

lemma inTheWay_eq_nil_iff {files old incoming : Tree} :
    inTheWay files old incoming = [] ↔ ∀ path content found, incoming.get? path = some content →
      files.get? path = some found → old.contains path = false → found = content := by
  rw [List.eq_nil_iff_forall_not_mem]
  constructor
  · intro h path content found hin hf ho
    by_contra hne
    exact h path (mem_inTheWay_iff.2 ⟨content, found, hin, hf, ho, hne⟩)
  · intro h path hmem
    obtain ⟨content, found, hin, hf, ho, hne⟩ := mem_inTheWay_iff.1 hmem
    exact hne (h path content found hin hf ho)

lemma swapTrees_eq_ok_iff {files old new files' : Tree} :
    swapTrees files old new = .ok files' ↔
      inTheWay files old new = [] ∧ (files.without old).overlay new = files' := by
  unfold swapTrees
  split
  · rename_i free
    simp [free]
  · rename_i paths hne
    exact iff_of_false (by simp) fun h => hne h.1

lemma get?_of_swap {files old new files' : Tree} (h : swapTrees files old new = .ok files')
    (path : String) : files'.get? path =
      (new.get? path).or (if old.contains path then none else files.get? path) := by
  rw [← (swapTrees_eq_ok_iff.1 h).2, Table.get?_overlay, Table.get?_without]

lemma get?_of_swap_untracked {files old new files' : Tree}
    (h : swapTrees files old new = .ok files') {path content : String}
    (hf : files.get? path = some content) (ho : old.contains path = false) :
    files'.get? path = some content := by
  rw [get?_of_swap h, ho, hf]
  cases hn : new.get? path with
  | none => rfl
  | some incoming =>
    rw [inTheWay_eq_nil_iff.1 (swapTrees_eq_ok_iff.1 h).1 path incoming content hn hf ho]
    rfl

lemma within_of_swap {files old new files' : Tree} (h : swapTrees files old new = .ok files') :
    new.Within files' := by
  intro path hn
  obtain ⟨content, hn⟩ := Table.contains_iff.1 hn
  refine Table.contains_iff.2 ⟨content, ?_⟩
  rw [get?_of_swap h, hn]
  rfl

/-! ### Merges -/

/-- Both sides have changed a path, and not in the same way. -/
def ChangedApart (base ours theirs : Option String) : Prop :=
  ours ≠ theirs ∧ theirs ≠ base ∧ ours ≠ base

/-- What stands at a path after a merge: the current side if only that has changed it or both have
it alike, the other side if only that has, and otherwise what their texts merge to cleanly. -/
structure Settles (labels : Merge.Labels) (base ours theirs content : Option String) : Prop where
  keep : theirs = base ∨ ours = theirs → content = ours
  take : ours = base → content = theirs
  apart : ChangedApart base ours theirs → ∃ o t text, ours = some o ∧ theirs = some t ∧
    Merge.mergeText labels (base.getD "") o t = .clean text ∧ content = some text

/-- Both sides have changed a path, and their texts merge to one with conflicts. -/
structure Disputes (labels : Merge.Labels) (base ours theirs : Option String) (text : String) :
    Prop where
  apart : ChangedApart base ours theirs
  clash : ∃ o t, ours = some o ∧ theirs = some t ∧
    Merge.mergeText labels (base.getD "") o t = .conflict text

variable {labels : Merge.Labels} {base ours theirs : Option String}

lemma mergePath_keep (h : theirs = base ∨ ours = theirs) :
    mergePath labels base ours theirs = .settled ours := by
  unfold mergePath Merge.pick
  rw [if_pos (or_comm.1 h)]

lemma mergePath_take (h : ours = base) :
    mergePath labels base ours theirs = .settled theirs := by
  by_cases hk : theirs = base ∨ ours = theirs
  · rw [mergePath_keep hk]
    rcases hk with hk | hk
    · rw [h, hk]
    · rw [hk]
  · unfold mergePath Merge.pick
    rw [if_neg (mt or_comm.1 hk), if_pos h]

lemma pick_eq_none_iff : Merge.pick base ours theirs = none ↔ ChangedApart base ours theirs :=
  Merge.pick_none_iff

lemma mergePath_apart (labels : Merge.Labels) (h : ChangedApart base ours theirs) {o t : String}
    (ho : ours = some o) (ht : theirs = some t) : mergePath labels base ours theirs =
      match Merge.mergeText labels (base.getD "") o t with
      | .clean text => .settled (some text)
      | .conflict text => .disputed text := by
  have hpick := pick_eq_none_iff.2 h
  subst ho ht
  cases htext : Merge.mergeText labels (base.getD "") o t with
  | clean text => simp [mergePath, hpick, htext]
  | conflict text => simp [mergePath, hpick, htext]

lemma kept_or_taken_or_apart (base ours theirs : Option String) :
    (theirs = base ∨ ours = theirs) ∨ ours = base ∨ ChangedApart base ours theirs := by
  by_cases keep : theirs = base ∨ ours = theirs
  · exact .inl keep
  by_cases take : ours = base
  · exact .inr (.inl take)
  exact .inr (.inr ⟨fun h => keep (.inr h), fun h => keep (.inl h), take⟩)

lemma ChangedApart.exists (h : ChangedApart base ours theirs) (hbo : base ≠ none → ours ≠ none)
    (hbt : base ≠ none → theirs ≠ none) : ∃ o t, ours = some o ∧ theirs = some t := by
  obtain ⟨-, htb, hob⟩ := h
  have ho : ours ≠ none := by
    intro hn
    by_cases hb : base = none
    · exact hob (hn.trans hb.symm)
    · exact hbo hb hn
  have ht : theirs ≠ none := by
    intro hn
    by_cases hb : base = none
    · exact htb (hn.trans hb.symm)
    · exact hbt hb hn
  obtain ⟨o, ho⟩ := Option.ne_none_iff_exists'.1 ho
  obtain ⟨t, ht⟩ := Option.ne_none_iff_exists'.1 ht
  exact ⟨o, t, ho, ht⟩

lemma mergePath_spec (labels : Merge.Labels) (hbo : base ≠ none → ours ≠ none)
    (hbt : base ≠ none → theirs ≠ none) :
    (∃ text, mergePath labels base ours theirs = .disputed text ∧
        Disputes labels base ours theirs text) ∨
      ∃ content, mergePath labels base ours theirs = .settled content ∧
        Settles labels base ours theirs content ∧
          ∀ text, ¬Disputes labels base ours theirs text := by
  rcases kept_or_taken_or_apart base ours theirs with keep | take | apart
  · have hna : ¬ChangedApart base ours theirs := fun h => keep.elim h.2.1 h.1
    refine .inr ⟨ours, mergePath_keep keep, ⟨fun _ => rfl, fun h => ?_, fun h => absurd h hna⟩,
      fun _ h => hna h.apart⟩
    exact keep.elim (fun hk => h.trans hk.symm) id
  · have hna : ¬ChangedApart base ours theirs := fun h => h.2.2 take
    refine .inr ⟨theirs, mergePath_take take, ⟨fun h => ?_, fun _ => rfl, fun h => absurd h hna⟩,
      fun _ h => hna h.apart⟩
    exact h.elim (fun hk => hk.trans take.symm) Eq.symm
  -- Both sides have the path, so that their texts are merged.
  obtain ⟨o, t, ho, ht⟩ := apart.exists hbo hbt
  have hm := mergePath_apart labels apart ho ht
  cases htext : Merge.mergeText labels (base.getD "") o t with
  | clean text =>
    rw [htext] at hm
    refine .inr ⟨some text, hm, ⟨fun h => absurd apart fun h' => h.elim h'.2.1 h'.1,
      fun h => absurd h apart.2.2, fun _ => ⟨o, t, text, ho, ht, htext, rfl⟩⟩, ?_⟩
    rintro other ⟨-, o', t', ho', ht', hother⟩
    obtain rfl := Option.some.inj (ho.symm.trans ho')
    obtain rfl := Option.some.inj (ht.symm.trans ht')
    rw [htext] at hother
    cases hother
  | conflict text =>
    rw [htext] at hm
    exact .inl ⟨text, hm, apart, o, t, ho, ht, htext⟩

lemma Settles.eq_none (h : Settles labels base ours theirs none) (hbo : base ≠ none → ours ≠ none)
    (hbt : base ≠ none → theirs ≠ none) : ours = none ∧ theirs = none := by
  rcases kept_or_taken_or_apart base ours theirs with keep | take | apart
  · have ho := (h.keep keep).symm
    refine ⟨ho, ?_⟩
    rcases keep with hk | hk
    · by_contra ht
      exact hbo (hk ▸ ht) ho
    · exact hk ▸ ho
  · have ht := (h.take take).symm
    refine ⟨?_, ht⟩
    by_contra ho
    exact hbt (take ▸ ho) ht
  · obtain ⟨_, _, _, _, _, _, hn⟩ := h.apart apart
    cases hn

lemma get?_settled (labels : Merge.Labels) (base ours theirs : Tree) (path : String) :
    (mergeTrees labels base ours theirs).settled.get? path =
      (mergePath labels (base.get? path) (ours.get? path) (theirs.get? path)).settled? := by
  simp only [mergeTrees, NameSet.union, Table.get?_pick, Table.get?_overlay, Table.get?_nameSet]
  cases base.get? path <;> cases ours.get? path <;> cases theirs.get? path <;>
    simp [mergePath, Merge.pick, PathMerge.settled?]

lemma get?_disputed (labels : Merge.Labels) (base ours theirs : Tree) (path : String) :
    (mergeTrees labels base ours theirs).disputed.get? path =
      (mergePath labels (base.get? path) (ours.get? path) (theirs.get? path)).disputed? := by
  simp only [mergeTrees, NameSet.union, Table.get?_pick, Table.get?_overlay, Table.get?_nameSet]
  cases base.get? path <;> cases ours.get? path <;> cases theirs.get? path <;>
    simp [mergePath, Merge.pick, PathMerge.disputed?]

end GitTutor
