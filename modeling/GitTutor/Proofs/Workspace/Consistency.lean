import GitTutor.Proofs.History.Numbering
import GitTutor.Proofs.Workspace.Integrity

/-!
What a reachable repository looks like from the outside.

It is coherent (`Repository.Coherent`): all that names a commit leads to one, the commits are
numbered without a gap from a single first one, and conflicts belong to a merge that waits for
them. And nothing in it has been deleted (`Workspace.Undeleted`): paths are only ever added, to the
files, to the index and from commit to commit, so that the code for deletions is never reached.
-/

namespace GitTutor

open History

namespace Repository

/-- A repository hangs together with its files. -/
structure Coherent (r : Repository) (files : Tree) : Prop where
  ids : r.history.ids.Nodup
  branches : ∀ {name id}, r.branches.get? name = some id → id ∈ r.history.ids
  detached : ∀ {id}, r.head = .detached id → id ∈ r.history.ids
  mergeHead : ∀ {id}, r.mergeHead = some id → id ∈ r.history.ids
  parents : ∀ c ∈ r.history, ∀ id ∈ c.parents, id ∈ r.history.ids
  /-- Each number below that of the commits is the number of one commit. -/
  numbers : (r.history.map (·.seq)).Perm (List.range r.history.length)
  older : ∀ c ∈ r.history, ∀ d ∈ r.history, d.id ∈ c.parents → d.seq < c.seq
  acyclic : ∀ id, ¬Relation.TransGen (Parent r.history) id id
  first : r.history ≠ [] → ∃ c ∈ r.history, c.seq = 0 ∧ ∀ d ∈ r.history, d.parents = [] ↔ d = c
  born : r.history ≠ [] → r.headId ≠ none
  branchNames : ∀ {name id}, r.branches.get? name = some id → validBranchName name = true
  pending : r.conflicts ≠ ∅ → r.mergeHead ≠ none
  conflicts : ∀ path, r.conflicts.contains path = true →
    r.index.contains path = true ∧ files.contains path = true

lemma Linked.coherent {r : Repository} {files : Tree} (hl : Linked r) (layers : Layered r files) :
    r.Coherent files where
  ids := hl.grown.nodup_ids
  branches := hl.branches
  detached h := hl.head (by rw [headId, h])
  mergeHead := hl.mergeHead
  parents c hc id hp := hl.grown.parent_mem ⟨c, hc, rfl, hp⟩
  numbers := by
    rw [hl.grown.map_seq]
    exact List.reverse_perm _
  older c hc d hd hp := hl.grown.seq_lt_of_parent hc hd hp
  acyclic := hl.grown.acyclic
  first := hl.grown.exists_first
  born hne tip := hne (hl.born tip)
  branchNames := hl.branchNames
  pending hne h := hne (layers.pending h)
  conflicts path h :=
    ⟨layers.conflicts path h, layers.index path (layers.conflicts path h)⟩

lemma Layered.status_ne_deleted {r : Repository} {files : Tree} (layers : Layered r files)
    (path : String) : (r.status files).get? path ≠ some .deleted := by
  intro h
  cases hc : r.conflicts.contains path with
  | true => cases get?_status_of_conflict hc h
  | false =>
    rw [get?_status_of_settled hc, FileStatus.ofContents_eq_deleted_iff] at h
    obtain ⟨hf, hother⟩ := h
    have hi := layers.index.get?_eq_none hf
    have hh := layers.headTree.get?_eq_none hi
    exact hother.elim (· hh) (· hi)

lemma exists_of_changedApart {r : Repository} (hg : r.history.Grown) {ours theirs : CommitId}
    {path : String} (h : ChangedApart ((r.baseTree ours theirs).get? path)
      ((r.treeOf ours).get? path) ((r.treeOf theirs).get? path)) :
    ∃ o t, (r.treeOf ours).get? path = some o ∧ (r.treeOf theirs).get? path = some t :=
  h.exists (fun hb => (exists_of_base hg hb).1) fun hb => (exists_of_base hg hb).2

end Repository

namespace Workspace

open Repository

/-- Nothing has been deleted in a workspace with a repository. -/
structure Undeleted (w : Workspace) (r : Repository) : Prop where
  staged : r.headTree.Within r.index
  present : r.index.Within w.files
  inherited : ∀ c ∈ r.history, ∀ d ∈ r.history, d.id ∈ c.parents → d.tree.Within c.tree
  status : ∀ entries, w.status = .ok entries → ∀ entry ∈ entries, entry.2 ≠ .deleted
  /-- Without a file there is nothing to unstage, so that adding it fails. -/
  add : ∀ path, w.files.get? path = none →
    r.index.contains path = false ∧ w.add path = (.error (.fileNotFound path), w)
  /-- No side of a merge has dropped a path of the base. -/
  merge : ∀ ours theirs path, (r.baseTree ours theirs).get? path ≠ none →
    (r.treeOf ours).get? path ≠ none ∧ (r.treeOf theirs).get? path ≠ none
  /-- Where a merge has to look into both sides of a path, it finds a text on each. -/
  disputed : ∀ ours theirs path, Merge.pick ((r.baseTree ours theirs).get? path)
      ((r.treeOf ours).get? path) ((r.treeOf theirs).get? path) = none →
    ∃ o t, (r.treeOf ours).get? path = some o ∧ (r.treeOf theirs).get? path = some t

variable {w : Workspace} {r : Repository}

lemma status_entry_ne_deleted (hr : w.repository = some r) (layers : Layered r w.files)
    {entries : List (String × FileStatus)} (h : w.status = .ok entries)
    {entry : String × FileStatus} (hmem : entry ∈ entries) : entry.2 ≠ .deleted := by
  rw [Workspace.status, ask, hr] at h
  obtain rfl := Except.ok.inj h
  intro hdel
  refine layers.status_ne_deleted entry.1 ?_
  rw [Table.get?, Entries.find_of_mem (r.status w.files).sorted hmem, hdel]

lemma add_of_absent (hr : w.repository = some r) {path : String} (absent : w.files.get? path = none)
    (unstaged : r.index.contains path = false) :
    w.add path = (.error (.fileNotFound path), w) := by
  simp only [Workspace.add, onRepository, hr, absent, unstaged, Bool.false_eq_true, if_false]

/-! ### Both hold in every reachable workspace -/

/-- The merge of `main` into `b` has stopped on the file `a`. -/
def haltedRepository : Repository :=
  { divergedRepository with
    index := .ofList [("a", "z\n"), ("n", "n\n")]
    conflicts := .ofList ["a"]
    mergeHead := some mainId }

def halted : Workspace :=
  ⟨.ofList [("a", "<<<<<<< HEAD\nz\n=======\ny\n>>>>>>> main\n"), ("n", "n\n")],
    some haltedRepository⟩

lemma merge_diverged_halts : diverged.merge 0 "main" ⟨"", ""⟩ =
    (.error (.mergeConflict "b" "main" ["a"]), halted) := by
  decide +kernel

lemma reachable_halted : Reachable halted :=
  reachable_diverged.run [.merge 0 "main" ⟨"", ""⟩] (by decide +kernel)

/-- **Every reachable repository is coherent.** -/
theorem repository_coherent (hw : Reachable w) (hr : w.repository = some r) :
    r.Coherent w.files := by
  obtain ⟨hl, layers⟩ := hw.sound r hr
  exact hl.coherent layers

theorem repository_coherent_halted :
    Reachable halted ∧ halted.repository = some haltedRepository ∧
      haltedRepository.Coherent halted.files :=
  ⟨reachable_halted, rfl, repository_coherent reachable_halted rfl⟩

/-- **No run ever deletes anything.** -/
theorem nothing_deleted (hw : Reachable w) (hr : w.repository = some r) : w.Undeleted r := by
  obtain ⟨hl, layers⟩ := hw.sound r hr
  refine ⟨layers.headTree, layers.index, ?_, ?_, ?_, ?_, ?_⟩
  · exact fun c hc d hd hp => hl.grown.tree_within_of_parent hc hd hp
  · exact fun entries h entry hmem => status_entry_ne_deleted hr layers h hmem
  · intro path absent
    have unstaged := Table.contains_eq_false_iff.2 (layers.index.get?_eq_none absent)
    exact ⟨unstaged, add_of_absent hr absent unstaged⟩
  · exact fun ours theirs path hb => exists_of_base hl.grown hb
  · exact fun ours theirs path h => exists_of_changedApart hl.grown (pick_eq_none_iff.1 h)

theorem nothing_deleted_halted :
    Reachable halted ∧ halted.repository = some haltedRepository ∧
      halted.Undeleted haltedRepository :=
  ⟨reachable_halted, rfl, nothing_deleted reachable_halted rfl⟩

end Workspace

end GitTutor
