import GitTutor.Proofs.Workspace.Integrity

/-!
No content is lost.

Operations that rewrite the files of a workspace drop only what the commit that is checked out
has. A file that the commit does not have is in nobody's way, or the operation is refused; a file
that it has is unchanged, since nothing is swapped over tracked changes.
-/

namespace GitTutor

open Repository

namespace Repository

variable {r : Repository} {files : Tree} {path content : String}

lemma Layered.untracked_or_committed (layers : Layered r files) (calm : r.conflicts = ∅)
    (clean : r.trackedChanges files = []) (file : files.get? path = some content) :
    r.headTree.contains path = false ∨ r.headTree.get? path = some content := by
  cases h : r.headTree.contains path with
  | false => exact .inl rfl
  | true =>
    -- A path of the commit is staged, and as such the same in all three places.
    obtain ⟨staged, hs⟩ := Table.contains_iff.1 (layers.headTree path h)
    obtain ⟨hh, hf⟩ := eq_of_clean calm clean hs
    exact .inr (by rw [hh, ← hf, file])

end Repository

namespace Workspace

/-- The commit that is checked out has the content at the path. -/
def Committed (w : Workspace) (path content : String) : Prop :=
  ∃ r id c, w.repository = some r ∧ r.headId = some id ∧ r.history.find? id = some c ∧
    c.tree.get? path = some content

variable {w : Workspace} {r : Repository} {path content : String}

lemma committed_of_headTree (hr : w.repository = some r)
    (h : r.headTree.get? path = some content) : w.Committed path content := by
  unfold headTree at h
  cases tip : r.headId with
  | none =>
    rw [tip] at h
    cases h
  | some id =>
    simp only [tip, treeOf] at h
    cases hf : r.history.find? id with
    | none =>
      rw [hf] at h
      cases h
    | some c =>
      rw [hf] at h
      exact ⟨r, id, c, hr, tip, hf, h⟩

lemma kept_of_swap {files new : Tree} (hs : Sound w) (hr : w.repository = some r)
    (calm : r.conflicts = ∅) (clean : r.trackedChanges w.files = [])
    (swap : swapTrees w.files r.headTree new = .ok files)
    (file : w.files.get? path = some content) :
    files.get? path = some content ∨ w.Committed path content := by
  rcases (hs r hr).2.untracked_or_committed calm clean file with h | h
  · exact .inl (get?_of_swap_untracked swap file h)
  · exact .inr (committed_of_headTree hr h)

lemma kept_of_conflict {files : Tree} {tree : MergedTree} (hs : Sound w)
    (hr : w.repository = some r) (calm : r.conflicts = ∅) (clean : r.trackedChanges w.files = [])
    (free : inTheWay w.files r.headTree tree.disputed = [])
    (swap : swapTrees w.files r.headTree tree.settled = .ok files)
    (file : w.files.get? path = some content) :
    (files.overlay tree.disputed).get? path = some content ∨ w.Committed path content := by
  rcases (hs r hr).2.untracked_or_committed calm clean file with h | h
  · refine .inl ?_
    rw [Table.get?_overlay]
    cases hd : tree.disputed.get? path with
    | none => exact get?_of_swap_untracked swap file h
    | some text => rw [inTheWay_eq_nil_iff.1 free path text content hd file h, Option.some_or]
  · exact .inr (committed_of_headTree hr h)

/-- **No content is lost.** After an operation that neither writes a file nor clears the
workspace, whether it succeeds, fails or stops on a conflict, every file of a reachable workspace
is there unchanged or is in the commit that was checked out. -/
theorem kept_or_committed (hw : Reachable w) {op : Operation}
    (unwritten : ∀ path content, op ≠ .write path content) (uncleared : op ≠ .clear)
    {path content : String} (file : w.files.get? path = some content) :
    (op.perform w).2.files.get? path = some content ∨ w.Committed path content := by
  have hs := hw.sound
  have ht := op.transition w
  generalize (op.perform w).1 = answer at ht
  generalize (op.perform w).2 = w' at ht ⊢
  cases ht with
  | write path content => exact absurd rfl (unwritten path content)
  | clear => exact absurd rfl uncleared
  | move hr calm _ _ clean swap => exact kept_of_swap hs hr calm clean swap file
  | fastForward ready _ _ swap =>
    rw [← headTree_of_tip ready.tip] at swap
    exact kept_of_swap hs ready.repository ready.calm ready.clean swap file
  | join ready _ _ _ _ swap _ =>
    rw [← headTree_of_tip ready.tip] at swap
    exact kept_of_swap hs ready.repository ready.calm ready.clean swap file
  | conflict ready _ _ _ _ free swap =>
    rw [← headTree_of_tip ready.tip] at free swap
    exact kept_of_conflict hs ready.repository ready.calm ready.clean free swap file
  -- The other steps leave the files alone.
  | _ => exact .inl file

/-- The checkout of `main` replaces the file that `b` has changed. -/
theorem kept_or_committed_diverged :
    Reachable diverged ∧ (∀ path content, Operation.checkout "main" ≠ .write path content) ∧
      Operation.checkout "main" ≠ .clear ∧ diverged.files.get? "a" = some "z\n" ∧
      (((Operation.checkout "main").perform diverged).2.files.get? "a" = some "z\n" ∨
        diverged.Committed "a" "z\n") :=
  ⟨reachable_diverged, by simp, by simp, rfl,
    kept_or_committed reachable_diverged (by simp) (by simp) rfl⟩

end Workspace

end GitTutor
