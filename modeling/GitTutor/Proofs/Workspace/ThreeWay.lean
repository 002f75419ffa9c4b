import GitTutor.Proofs.Workspace.Integrity

/-!
Merging histories that have gone different ways.

Such a merge ends in a merge commit (`Joined`) or stops on conflicts (`Halted`), or the files are
in its way and nothing happens. Both ends are described path by path, from the contents in the
merge base, in the current commit and in the other one.
-/

namespace GitTutor

open History

namespace Repository

/-- What stands at a path after a merge of two commits over a third. -/
def SettlesAt (r : Repository) (reference : String) (base ours theirs : CommitId) (path : String)
    (content : Option String) : Prop :=
  Settles ⟨"HEAD", reference⟩ ((r.treeOf base).get? path) ((r.treeOf ours).get? path)
    ((r.treeOf theirs).get? path) content

/-- A path has a conflict in a merge of two commits over a third, shown in the text. -/
def DisputesAt (r : Repository) (reference : String) (base ours theirs : CommitId) (path : String)
    (text : String) : Prop :=
  Disputes ⟨"HEAD", reference⟩ ((r.treeOf base).get? path) ((r.treeOf ours).get? path)
    ((r.treeOf theirs).get? path) text

/-- The commit `c` joins two commits: the repository `r` and its files have become `r'` and
`files'`. -/
structure Joined (r r' : Repository) (files files' : Tree) (reference : String)
    (base ours theirs : CommitId) (c : Commit) : Prop where
  history : r'.history = c :: r.history
  head : r'.headId = some c.id
  parents : c.parents = [ours, theirs]
  tree : ∀ path, r.SettlesAt reference base ours theirs path (c.tree.get? path)
  index : r'.index = c.tree
  files : ∀ path, files'.get? path = (c.tree.get? path).or (files.get? path)

/-- A merge has stopped on conflicts in `paths`. -/
structure Halted (r r' : Repository) (files files' : Tree) (reference : String)
    (base ours theirs : CommitId) (paths : List String) : Prop where
  sorted : paths.Pairwise (· < ·)
  nonempty : paths ≠ []
  mem_paths : ∀ path, path ∈ paths ↔ ∃ text, r.DisputesAt reference base ours theirs path text
  history : r'.history = r.history
  branches : r'.branches = r.branches
  head : r'.head = r.head
  remotes : r'.remotes = r.remotes
  conflicts : r'.conflicts.names = paths
  mergeHead : r'.mergeHead = some theirs
  disputed : ∀ path text, r.DisputesAt reference base ours theirs path text →
    r'.index.get? path = (r.treeOf ours).get? path ∧ files'.get? path = some text
  settled : ∀ path, path ∉ paths →
    r.SettlesAt reference base ours theirs path (r'.index.get? path) ∧
      files'.get? path = (r'.index.get? path).or (files.get? path)

variable {r : Repository} {files : Tree} {reference : String} {base ours theirs : CommitId}

lemma baseTree_of_mergeBase (h : r.history.mergeBase ours theirs = some base) :
    r.baseTree ours theirs = r.treeOf base := by
  rw [baseTree, h]

lemma DisputesAt.unique {path text text' : String}
    (h : r.DisputesAt reference base ours theirs path text)
    (h' : r.DisputesAt reference base ours theirs path text') : text = text' := by
  obtain ⟨-, o, t, ho, ht, hm⟩ := h
  obtain ⟨-, o', t', ho', ht', hm'⟩ := h'
  obtain rfl := Option.some.inj (ho.symm.trans ho')
  obtain rfl := Option.some.inj (ht.symm.trans ht')
  exact Merge.MergedText.conflict.inj (hm.symm.trans hm')

lemma get?_of_swap_within {old new files' : Tree} (swap : swapTrees files old new = .ok files')
    {path : String} (h : new.get? path = none → old.get? path = none) :
    files'.get? path = (new.get? path).or (files.get? path) := by
  rw [get?_of_swap swap]
  cases hn : new.get? path with
  | some content => rfl
  | none => simp [Table.contains, h hn]

lemma joined_of_record (hl : Linked r) (hbase : r.history.mergeBase ours theirs = some base)
    {r' : Repository} {files' tree : Tree} {now : Int64} {message : String} {author : Signature}
    {id : CommitId} (agreed : (r.threeWay reference ours theirs).disputed = ∅)
    (result : (r.threeWay reference ours theirs).settled = tree)
    (swap : swapTrees files (r.treeOf ours) tree = .ok files') (fresh : id ∉ r.history.ids)
    (recorded : { r with index := tree }.record now tree [ours, theirs] message author = (id, r')) :
    ∃ c, c.id = id ∧ Joined r r' files files' reference base ours theirs c := by
  have hl' : Linked { r with index := tree } := hl.congr rfl rfl rfl hl.mergeHead
  obtain ⟨c, rfl, hs, rfl⟩ := record_eq hl'.grown recorded fresh
  have htree : c.tree = tree := congrArg (·.tree) hs
  refine ⟨c, rfl, history_advance, headId_advance, congrArg (·.parents) hs, ?_, ?_, ?_⟩
  · intro path
    rcases threeWay_spec hl.grown reference ours theirs path with ⟨_, -, hd, -⟩ | ⟨-, hset, -⟩
    · rw [agreed] at hd
      cases hd
    · rw [baseTree_of_mergeBase hbase, result] at hset
      exact htree ▸ hset
  · exact index_advance.trans htree.symm
  · intro path
    rw [htree]
    refine get?_of_swap_within swap fun hn => ?_
    exact ((result ▸ within_of_agreed hl.grown agreed).1 : (r.treeOf ours).Within tree).get?_eq_none
      hn

lemma halted_of_stopped (hl : Linked r) (hbase : r.history.mergeBase ours theirs = some base)
    {files' : Tree} (disputes : (r.threeWay reference ours theirs).disputed ≠ ∅)
    (swap : swapTrees files (r.treeOf ours) (r.threeWay reference ours theirs).settled =
      .ok files') :
    Halted r (r.stopped ours theirs (r.threeWay reference ours theirs)) files
      (files'.overlay (r.threeWay reference ours theirs).disputed) reference base ours theirs
      (r.threeWay reference ours theirs).disputed.names := by
  have hspec := threeWay_spec hl.grown reference ours theirs
  rw [baseTree_of_mergeBase hbase] at hspec
  -- The disputed paths are those with a conflict, and each has the text of its conflict.
  have hdis : ∀ path text, (r.threeWay reference ours theirs).disputed.get? path = some text ↔
      r.DisputesAt reference base ours theirs path text := by
    intro path text
    rcases hspec path with ⟨text', -, hd, hdis⟩ | ⟨hd, -, hno⟩
    · rw [hd, Option.some.injEq]
      exact ⟨fun h => h ▸ hdis, fun h => DisputesAt.unique hdis h⟩
    · rw [hd]
      exact ⟨fun h => absurd h (by simp), fun h => absurd h (hno text)⟩
  refine ⟨Table.pairwise_names _, ?_, ?_, rfl, rfl, rfl, rfl, ?_, rfl, ?_, ?_⟩
  · intro hn
    refine disputes (Table.eq_empty_of_get? fun path => ?_)
    rw [← Table.contains_eq_false_iff, ← Bool.not_eq_true, ← Table.mem_names_iff, hn]
    exact List.not_mem_nil
  · intro path
    simp only [Table.mem_names_iff, Table.contains_iff, hdis]
  · rw [stopped, Table.names_nameSet]
  · intro path text h
    rw [get?_index_stopped, Table.get?_overlay, (hdis path text).2 h]
    obtain ⟨o, _, ho, -⟩ := h.clash
    rw [ho]
    exact ⟨rfl, rfl⟩
  · intro path hp
    rw [Table.mem_names_iff, Bool.not_eq_true, Table.contains_eq_false_iff] at hp
    rcases hspec path with ⟨_, -, hd, -⟩ | ⟨-, hset, -⟩
    · rw [hp] at hd
      cases hd
    · rw [get?_index_stopped, Table.get?_overlay, hp]
      exact ⟨hset, get?_of_swap_within swap fun hn => (threeWay_eq_none hl.grown hn hp).1⟩

end Repository

namespace Workspace

open Repository

variable {w : Workspace} {r : Repository} {reference : String} {ours theirs : CommitId}

/-- How a merge of diverged histories may end: in a merge commit, on conflicts, or in another
failure that leaves everything as it was. -/
def DivergedOutcome (w : Workspace) (r : Repository) (reference : String)
    (base ours theirs : CommitId) : Except RepoError MergeResult × Workspace → Prop
  | (.ok (.merged id), w') => ∃ r' c, w'.repository = some r' ∧ c.id = id ∧
      Joined r r' w.files w'.files reference base ours theirs c
  | (.error (.mergeConflict _ _ paths), w') => ∃ r', w'.repository = some r' ∧
      Halted r r' w.files w'.files reference base ours theirs paths
  | (.error _, w') => w' = w
  | (.ok _, _) => False

/-- **A merge of diverged histories is right at every path.** In a reachable workspace with
neither conflicts nor tracked changes, let neither the commit that is checked out nor the other
one lead to the other. They have a merge base, and over it the merge is finished as `Joined` says
or stops as `Halted` says, unless it is refused. -/
theorem merge_diverged (hw : Reachable w) (ready : Ready w r reference ours theirs)
    (behind : ¬Leads r.history ours theirs) (ahead : ¬Leads r.history theirs ours)
    {now : Int64} {author : Signature} (fresh : (Operation.merge now reference author).Fresh w) :
    ∃ base, r.history.mergeBase ours theirs = some base ∧ Leads r.history ours base ∧
      Leads r.history theirs base ∧
      DivergedOutcome w r reference base ours theirs (w.merge now reference author) := by
  obtain ⟨hl, -⟩ := hw.sound r ready.repository
  obtain ⟨base, hbase⟩ := hl.grown.exists_mergeBase (hl.head ready.tip)
    (hl.resolve_mem ready.names)
  obtain ⟨ho, ht⟩ := leads_of_mergeBase hbase
  refine ⟨base, hbase, ho, ht, ?_⟩
  have htrans := (Operation.merge now reference author).transition w
  rw [Operation.Fresh, ids, ready.repository] at fresh
  rw [Operation.perform] at htrans fresh
  generalize w.merge now reference author = outcome at htrans fresh ⊢
  obtain ⟨result, w'⟩ := outcome
  cases result with
  | error e =>
    rw [Answer.wrap] at htrans
    cases htrans with
    | refused plain =>
      cases e with
      | mergeConflict _ _ _ => cases plain
      | _ => rfl
    | conflict ready' _ _ result disputes _ swap =>
      obtain ⟨rfl, rfl, rfl⟩ := ready.unique ready'
      subst result
      exact ⟨_, rfl, halted_of_stopped hl hbase disputes swap⟩
  | ok result =>
    rw [Answer.wrap] at htrans fresh
    -- Neither commit leads to the other, so there is something to merge on both sides.
    cases htrans with
    | upToDate ready' base' =>
      obtain ⟨rfl, rfl, rfl⟩ := ready.unique ready'
      exact absurd (leads_of_mergeBase base').1 behind
    | fastForward ready' _ base' _ =>
      obtain ⟨rfl, rfl, rfl⟩ := ready.unique ready'
      exact absurd (leads_of_mergeBase base').2 ahead
    | join ready' _ _ agreed result swap recorded =>
      obtain ⟨rfl, rfl, rfl⟩ := ready.unique ready'
      obtain ⟨c, hid, joined⟩ :=
        joined_of_record hl hbase agreed result swap (fresh _ rfl) recorded
      exact ⟨_, c, rfl, hid, joined⟩

/-- The merge of `main`, which stops on the one file that both branches have changed. -/
theorem merge_diverged_main :
    ∃ base, divergedRepository.history.mergeBase sideId mainId = some base ∧
      Leads divergedRepository.history sideId base ∧
      Leads divergedRepository.history mainId base ∧
      DivergedOutcome diverged divergedRepository "main" base sideId mainId
        (diverged.merge 0 "main" ⟨"", ""⟩) := by
  have grown : divergedRepository.history.Grown := (reachable_diverged.sound _ rfl).1.grown
  have ready : Ready diverged divergedRepository "main" sideId mainId :=
    ⟨rfl, rfl, by decide +kernel, by decide +kernel, by decide +kernel⟩
  have behind : mainId ∉ divergedRepository.history.ancestors sideId := by decide +kernel
  have ahead : sideId ∉ divergedRepository.history.ancestors mainId := by decide +kernel
  have fresh : (Operation.merge 0 "main" ⟨"", ""⟩).Fresh diverged := by decide +kernel
  exact merge_diverged reachable_diverged ready (mt (mem_ancestors_iff grown).2 behind)
    (mt (mem_ancestors_iff grown).2 ahead) fresh

end Workspace

end GitTutor
