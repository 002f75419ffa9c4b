import GitTutor.Proofs.Workspace.Growth

/-!
How merges end.

Where neither conflicts nor tracked changes forbid it, a merge is decided by which of the two
commits leads to the other (`Classified`): nothing happens, or the head moves on, or the trees are
merged. A merge that succeeds leaves a head that leads to both commits and nothing to commit
(`Absorbed`), so that the same branch has nothing left to merge.
-/

namespace GitTutor

open History

lemma swapTrees_eq_error {files old new : Tree} {e : RepoError}
    (h : swapTrees files old new = .error e) :
    e = .untrackedOverwritten (inTheWay files old new) ∧ inTheWay files old new ≠ [] := by
  unfold swapTrees at h
  split at h
  · cases h
  · rename_i hne
    exact ⟨(Except.error.inj h).symm, hne⟩

lemma clean_of_swap {r : Repository} {files old new files' : Tree} (calm : r.conflicts = ∅)
    (index : r.index = new) (headTree : r.headTree = new)
    (swap : swapTrees files old new = .ok files') : r.trackedChanges files' = [] := by
  subst index
  refine Repository.trackedChanges_eq_nil calm headTree fun path content hi => ?_
  rw [get?_of_swap swap, hi]
  rfl

namespace Workspace

open Repository

variable {w w' : Workspace} {r r' : Repository} {reference : String} {ours theirs : CommitId}

/-! ### What decides -/

lemma merge_of_ready (ready : Ready w r reference ours theirs) (now : Int64)
    (author : Signature) :
    w.merge now reference author = w.mergeCommits r now reference author ours theirs := by
  have calm : r.conflicts.isEmpty = true := Table.isEmpty_iff.2 ready.calm
  simp only [Workspace.merge, onRepository, ready.repository, calm, Bool.not_true,
    Bool.false_eq_true, if_false, ready.tip, ready.names, ready.clean]

lemma merge_of_leads (ready : Ready w r reference ours theirs) (hl : Linked r)
    (h : Leads r.history ours theirs) (now : Int64) (author : Signature) :
    w.merge now reference author = (.ok .upToDate, w) := by
  have base := (hl.grown.mergeBase_eq_right_iff (hl.resolve_mem ready.names)).2 h
  rw [merge_of_ready ready, mergeCommits, if_pos base]

lemma merge_of_leads_back (ready : Ready w r reference ours theirs) (hl : Linked r)
    (behind : ¬Leads r.history ours theirs) (h : Leads r.history theirs ours) (now : Int64)
    (author : Signature) : w.merge now reference author = w.fastForward r ours theirs := by
  have other := mt (hl.grown.mergeBase_eq_right_iff (hl.resolve_mem ready.names)).1 behind
  have base := (hl.grown.mergeBase_eq_left_iff (hl.head ready.tip)).2 h
  rw [merge_of_ready ready, mergeCommits, if_neg other, if_pos base]

lemma merge_of_apart (ready : Ready w r reference ours theirs) (hl : Linked r)
    (behind : ¬Leads r.history ours theirs) (ahead : ¬Leads r.history theirs ours) (now : Int64)
    (author : Signature) : w.merge now reference author =
      if (r.threeWay reference ours theirs).disputed.isEmpty then
        w.finishMerge r now reference author ours theirs (r.threeWay reference ours theirs).settled
      else w.stopMerge r reference ours theirs (r.threeWay reference ours theirs) := by
  have other := mt (hl.grown.mergeBase_eq_right_iff (hl.resolve_mem ready.names)).1 behind
  have other' := mt (hl.grown.mergeBase_eq_left_iff (hl.head ready.tip)).1 ahead
  rw [merge_of_ready ready, mergeCommits, if_neg other, if_neg other']
  rfl

/-! ### What can be answered -/

/-- The head and the index have moved on to a commit. -/
def MovedOn (r : Repository) (id : CommitId)
    (outcome : Except RepoError MergeResult × Workspace) : Prop :=
  outcome.1 = .ok (.fastForward id) ∧ ∃ r', outcome.2.repository = some r' ∧
    r'.headId = some id ∧ r'.index = r.treeOf id

/-- A merge is refused for untracked files, and nothing has changed. -/
def Obstructed (w : Workspace) (r : Repository)
    (outcome : Except RepoError MergeResult × Workspace) : Prop :=
  ∃ paths, outcome = (.error (.untrackedOverwritten paths), w) ∧ paths ≠ [] ∧
    ∀ path ∈ paths, w.files.contains path = true ∧ r.index.contains path = false

lemma Obstructed.ne_ok {outcome : Except RepoError MergeResult × Workspace}
    (h : Obstructed w r outcome) (result : MergeResult) : outcome.1 ≠ .ok result := by
  obtain ⟨paths, rfl, -⟩ := h
  simp

lemma obstructed_of_inTheWay (ready : Ready w r reference ours theirs) {incoming : Tree}
    (hne : inTheWay w.files (r.treeOf ours) incoming ≠ []) :
    Obstructed w r
      (.error (.untrackedOverwritten (inTheWay w.files (r.treeOf ours) incoming)), w) := by
  refine ⟨_, rfl, hne, fun path hmem => ?_⟩
  obtain ⟨_, found, -, hf, ho, -⟩ := mem_inTheWay_iff.1 hmem
  rw [← headTree_of_tip ready.tip] at ho
  have hwithin := index_within_headTree ready.calm ready.clean
  exact ⟨Table.contains_of_get? hf, Table.contains_eq_false_iff.2
    (hwithin.get?_eq_none (Table.contains_eq_false_iff.1 ho))⟩

lemma obstructed_of_swap (ready : Ready w r reference ours theirs) {new : Tree} {e : RepoError}
    (h : swapTrees w.files (r.treeOf ours) new = .error e) : Obstructed w r (.error e, w) := by
  obtain ⟨rfl, hne⟩ := swapTrees_eq_error h
  exact obstructed_of_inTheWay ready hne

lemma finishMerge_answer (ready : Ready w r reference ours theirs) (now : Int64)
    (author : Signature) (tree : Tree) :
    (∃ id, (w.finishMerge r now reference author ours theirs tree).1 = .ok (.merged id)) ∨
      Obstructed w r (w.finishMerge r now reference author ours theirs tree) := by
  unfold finishMerge
  cases swap : swapTrees w.files (r.treeOf ours) tree with
  | error e => exact .inr (obstructed_of_swap ready swap)
  | ok files => exact .inl ⟨_, rfl⟩

lemma stopMerge_answer (ready : Ready w r reference ours theirs) (tree : MergedTree) :
    (∃ a b paths, (w.stopMerge r reference ours theirs tree).1 =
        .error (.mergeConflict a b paths)) ∨
      Obstructed w r (w.stopMerge r reference ours theirs tree) := by
  unfold stopMerge
  simp only
  split
  · cases swap : swapTrees w.files (r.treeOf ours) tree.settled with
    | error e => exact .inr (obstructed_of_swap ready swap)
    | ok files => exact .inl ⟨_, _, _, rfl⟩
  · rename_i hne
    exact .inr (obstructed_of_inTheWay ready hne)

lemma merge_ahead_answer (ready : Ready w r reference ours theirs) (hl : Linked r)
    (behind : ¬Leads r.history ours theirs) (ahead : Leads r.history theirs ours) (now : Int64)
    (author : Signature) :
    MovedOn r theirs (w.merge now reference author) ∨
      Obstructed w r (w.merge now reference author) := by
  rw [merge_of_leads_back ready hl behind ahead, fastForward]
  cases swap : swapTrees w.files (r.treeOf ours) (r.treeOf theirs) with
  | error e => exact .inr (obstructed_of_swap ready swap)
  | ok files => exact .inl ⟨rfl, _, rfl, headId_advance, index_advance⟩

lemma merge_apart_answer (ready : Ready w r reference ours theirs) (hl : Linked r)
    (behind : ¬Leads r.history ours theirs) (ahead : ¬Leads r.history theirs ours) (now : Int64)
    (author : Signature) :
    (∃ id, (w.merge now reference author).1 = .ok (.merged id)) ∨
      (∃ a b paths, (w.merge now reference author).1 = .error (.mergeConflict a b paths)) ∨
      Obstructed w r (w.merge now reference author) := by
  rw [merge_of_apart ready hl behind ahead]
  split
  · rcases finishMerge_answer ready now author _ with h | h
    · exact .inl h
    · exact .inr (.inr h)
  · exact .inr (stopMerge_answer ready _)

/-! ### What a merge that succeeds leaves -/

/-- The head `tip` leads to both sides of a merge, there is nothing to commit, and no branch but
the current one has moved. -/
structure Absorbed (w' : Workspace) (r r' : Repository) (tip ours theirs : CommitId) : Prop where
  repository : w'.repository = some r'
  calm : r'.conflicts = ∅
  head : r'.headId = some tip
  leads : Leads r'.history tip ours ∧ Leads r'.history tip theirs
  clean : r'.trackedChanges w'.files = []
  branches : ∀ name, r'.branches.get? name = r.branches.get? name ∨
    r'.branches.get? name = some tip

lemma get?_branches_advance_or (id : CommitId) (name : String) :
    (r.advance id).branches.get? name = r.branches.get? name ∨
      (r.advance id).branches.get? name = some id := by
  rw [get?_branches_advance]
  split
  · exact .inr rfl
  · exact .inl rfl

lemma absorbed_of_record {r₁ : Repository} {files files' tree : Tree} {now : Int64}
    {message : String} {author : Signature} {id : CommitId}
    (recorded : r₁.record now tree [ours, theirs] message author = (id, r'))
    (hg : r₁.history.Grown) (fresh : id ∉ r₁.history.ids) (calm : r₁.conflicts = ∅)
    (index : r₁.index = tree) (swap : swapTrees files (r.treeOf ours) tree = .ok files')
    (branches : r₁.branches = r.branches) :
    ∃ tip, Absorbed ⟨files', some r'⟩ r r' tip ours theirs := by
  obtain ⟨c, rfl, hs, rfl⟩ := record_eq hg recorded fresh
  have hparents : c.parents = [ours, theirs] := congrArg (·.parents) hs
  have htree : c.tree = tree := congrArg (·.tree) hs
  refine ⟨c.id, rfl, conflicts_advance.trans calm, headId_advance, ?_, ?_, ?_⟩
  · rw [history_advance]
    exact ⟨.parent_of_front (by simp [hparents]), .parent_of_front (by simp [hparents])⟩
  · refine clean_of_swap (conflicts_advance.trans calm) (index_advance.trans index) ?_ swap
    rw [headTree_advance, treeOf_cons_self rfl, htree]
  · exact fun name => branches ▸ get?_branches_advance_or c.id name

lemma Transition.absorbed {now : Int64} {author : Signature} {result : MergeResult}
    (ht : Transition w (.merge now reference author) (.ok (.merged result)) w') (hs : Sound w)
    (fresh : ∀ id ∈ Answer.newId (.ok (.merged result)), id ∉ w.ids)
    (ready : Ready w r reference ours theirs) :
    ∃ r' tip, Absorbed w' r r' tip ours theirs := by
  cases ht with
  | upToDate ready' base =>
    obtain ⟨rfl, rfl, rfl⟩ := ready.unique ready'
    exact ⟨_, _, ready.repository, ready.calm, ready.tip,
      ⟨Leads.refl _ _, (leads_of_mergeBase base).1⟩, ready.clean, fun name => .inl rfl⟩
  | fastForward ready' _ base swap =>
    obtain ⟨rfl, rfl, rfl⟩ := ready.unique ready'
    refine ⟨_, _, rfl, conflicts_advance.trans ready.calm, headId_advance,
      ⟨?_, Leads.refl _ _⟩, ?_, get?_branches_advance_or _⟩
    · rw [history_advance]
      exact (leads_of_mergeBase base).2
    · exact clean_of_swap (conflicts_advance.trans ready.calm) index_advance headTree_advance swap
  | join ready' _ _ _ _ swap recorded =>
    obtain ⟨rfl, rfl, rfl⟩ := ready.unique ready'
    have hid := not_mem_of_fresh fresh ready.repository rfl
    obtain ⟨tip, h⟩ := absorbed_of_record recorded (hs _ ready.repository).1.grown hid
      ready.calm rfl swap rfl
    exact ⟨_, tip, h⟩

lemma Absorbed.merge_again {tip : CommitId} (h : Absorbed w' r r' tip ours theirs)
    (hl' : Linked r') (branch : r.branches.get? reference = some theirs) (now : Int64)
    (author : Signature) : w'.merge now reference author = (.ok .upToDate, w') := by
  obtain ⟨target, hbranch, hleads⟩ : ∃ target, r'.branches.get? reference = some target ∧
      Leads r'.history tip target := by
    rcases h.branches reference with hb | hb
    · exact ⟨theirs, hb.trans branch, h.leads.2⟩
    · exact ⟨tip, hb, Leads.refl _ _⟩
  have ready : Ready w' r' reference tip target :=
    ⟨h.repository, h.calm, h.head, hl'.resolve_branch hbranch, h.clean⟩
  exact merge_of_leads ready hl' hleads now author

lemma absorbed_of_merge (hw : Reachable w) (ready : Ready w r reference ours theirs) {now : Int64}
    {author : Signature} (fresh : (Operation.merge now reference author).Fresh w)
    {result : MergeResult} (h : w.merge now reference author = (.ok result, w')) :
    ∃ r' tip, Absorbed w' r r' tip ours theirs ∧ Linked r' := by
  have hp : (Operation.merge now reference author).perform w = (.ok (.merged result), w') := by
    rw [Operation.perform, h]
    rfl
  have ht := (Operation.merge now reference author).transition w
  have hw' := hw.step _ fresh
  rw [hp] at ht hw'
  rw [Operation.Fresh, hp] at fresh
  obtain ⟨r', tip, ha⟩ := ht.absorbed hw.sound fresh ready
  exact ⟨r', tip, ha, (hw'.sound r' ha.repository).1⟩

/-! ### All together -/

/-- How a merge of `theirs` into `ours` ends, by what leads to what. -/
structure Classified (w : Workspace) (r : Repository) (reference : String)
    (ours theirs : CommitId) (outcome : Except RepoError MergeResult × Workspace) : Prop where
  upToDate : outcome.1 = .ok .upToDate ↔ Leads r.history ours theirs
  unchanged : outcome.1 = .ok .upToDate → outcome.2 = w
  fastForward : ¬Leads r.history ours theirs → Leads r.history theirs ours →
    MovedOn r theirs outcome ∨ Obstructed w r outcome
  apart : ¬Leads r.history ours theirs → ¬Leads r.history theirs ours →
    (∃ id, outcome.1 = .ok (.merged id)) ∨
      (∃ a b paths, outcome.1 = .error (.mergeConflict a b paths)) ∨ Obstructed w r outcome
  absorbed : ∀ {result}, outcome.1 = .ok result → ∃ r' tip, outcome.2.repository = some r' ∧
    r'.headId = some tip ∧ Leads r'.history tip ours ∧ Leads r'.history tip theirs ∧
    r'.trackedChanges outcome.2.files = []
  again : ∀ {result}, outcome.1 = .ok result → r.branches.contains reference = true →
    ∀ now author, outcome.2.merge now reference author = (.ok .upToDate, outcome.2)

/-- **A merge is classified by what leads to what, and merging again changes nothing.** -/
theorem merge_classified (hw : Reachable w) (ready : Ready w r reference ours theirs)
    {now : Int64} {author : Signature} (fresh : (Operation.merge now reference author).Fresh w) :
    Classified w r reference ours theirs (w.merge now reference author) := by
  obtain ⟨hl, -⟩ := hw.sound r ready.repository
  have ahead := fun behind ahead => merge_ahead_answer ready hl behind ahead now author
  have apart := fun behind ahead => merge_apart_answer ready hl behind ahead now author
  have leads : (w.merge now reference author).1 = .ok .upToDate → Leads r.history ours theirs := by
    intro h
    by_contra behind
    by_cases back : Leads r.history theirs ours
    · rcases ahead behind back with ⟨hff, -⟩ | hno
      · cases hff.symm.trans h
      · exact hno.ne_ok _ h
    · rcases apart behind back with ⟨_, hid⟩ | ⟨_, _, _, hconf⟩ | hno
      · cases hid.symm.trans h
      · cases hconf.symm.trans h
      · exact hno.ne_ok _ h
  refine ⟨⟨leads, fun h => ?_⟩, fun h => ?_, ahead, apart, fun h => ?_, fun h hb now' author' => ?_⟩
  · rw [merge_of_leads ready hl h]
  · rw [merge_of_leads ready hl (leads h)]
  · obtain ⟨r', tip, ha, -⟩ := absorbed_of_merge hw ready fresh (Prod.ext h rfl)
    exact ⟨r', tip, ha.repository, ha.head, ha.leads.1, ha.leads.2, ha.clean⟩
  · obtain ⟨r', tip, ha, hl'⟩ := absorbed_of_merge hw ready fresh (Prod.ext h rfl)
    obtain ⟨id, hid⟩ := Table.contains_iff.1 hb
    obtain rfl := Except.ok.inj ((hl.resolve_branch hid).symm.trans ready.names)
    exact ha.merge_again hl' hid now' author'

/-- The first commit of `diverged`, checked out without a branch. -/
def rewoundRepository : Repository :=
  { divergedRepository with head := .detached forkId, index := .ofList [("a", "x\n")] }

def rewound : Workspace := ⟨.ofList [("a", "x\n")], some rewoundRepository⟩

/-- The head moves on to `main`. -/
theorem merge_classified_rewound :
    Reachable rewound ∧ Ready rewound rewoundRepository "main" forkId mainId ∧
      (Operation.merge 0 "main" ⟨"", ""⟩).Fresh rewound ∧
      Classified rewound rewoundRepository "main" forkId mainId
        (rewound.merge 0 "main" ⟨"", ""⟩) := by
  have reachable : Reachable rewound :=
    reachable_diverged.run [.checkout forkId.hex] (by decide +kernel)
  have ready : Ready rewound rewoundRepository "main" forkId mainId :=
    ⟨rfl, rfl, rfl, by decide +kernel, by decide +kernel⟩
  have fresh : (Operation.merge 0 "main" ⟨"", ""⟩).Fresh rewound := by decide +kernel
  exact ⟨reachable, ready, fresh, merge_classified reachable ready fresh⟩

end Workspace

end GitTutor
