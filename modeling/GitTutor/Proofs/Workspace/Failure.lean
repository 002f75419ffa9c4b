import GitTutor.Proofs.Workspace.Consistency

/-!
What failed operations leave.

A merge that stops on conflicts rewrites files and the index and waits to be finished; the history,
the branches, the head and the remotes stay as they are. Every other failure leaves the whole
workspace as it was, since all checks of an operation stand before its first change. Nothing of
this needs that operations have made the workspace.
-/

namespace GitTutor

/-- The same commits, branches, head and remotes. -/
structure Repository.SameRefs (r r' : Repository) : Prop where
  history : r'.history = r.history
  branches : r'.branches = r.branches
  head : r'.head = r.head
  remotes : r'.remotes = r.remotes

namespace Workspace

/-- What a failed operation leaves of `w`. -/
structure LeftBehind (op : Operation) (e : RepoError) (w w' : Workspace) : Prop where
  plain : e.isMergeConflict = false → w' = w
  stopped : e.isMergeConflict = true → (∃ now reference author, op = .merge now reference author) ∧
    ∃ r r', w.repository = some r ∧ w'.repository = some r' ∧ r.SameRefs r'

/-- **Failures are atomic.** Whatever the workspace, an operation that fails leaves it as it was,
unless it is a merge that stops on conflicts, and then commits, branches, head and remotes are
the same. -/
theorem failed_operation_atomic {op : Operation} {e : RepoError} {w w' : Workspace}
    (failed : op.perform w = (.error e, w')) : LeftBehind op e w w' := by
  refine ⟨op.unchanged_of_error failed, fun halts => ?_⟩
  have ht := op.transition w
  rw [failed] at ht
  cases ht with
  | refused plain =>
    rw [plain] at halts
    cases halts
  | conflict ready _ _ _ _ _ _ =>
    exact ⟨⟨_, _, _, rfl⟩, _, _, ready.repository, rfl, rfl, rfl, rfl, rfl⟩

/-- The merge that stops, and a commit that is refused as long as it waits. -/
theorem failed_operation_atomic_halted :
    ((Operation.merge 0 "main" ⟨"", ""⟩).perform diverged =
        (.error (.mergeConflict "b" "main" ["a"]), halted) ∧
      LeftBehind (.merge 0 "main" ⟨"", ""⟩) (.mergeConflict "b" "main" ["a"]) diverged halted) ∧
      (Operation.commit 0 "4" ⟨"", ""⟩).perform halted =
        (.error (.unresolvedConflicts ["a"]), halted) ∧
      LeftBehind (.commit 0 "4" ⟨"", ""⟩) (.unresolvedConflicts ["a"]) halted halted := by
  have refused : halted.commit 0 "4" ⟨"", ""⟩ =
      (.error (.unresolvedConflicts ["a"]), halted) := by
    decide +kernel
  have hmerge : (Operation.merge 0 "main" ⟨"", ""⟩).perform diverged =
      (.error (.mergeConflict "b" "main" ["a"]), halted) := by
    rw [Operation.perform, merge_diverged_halts, Answer.wrap]
  have hcommit : (Operation.commit 0 "4" ⟨"", ""⟩).perform halted =
      (.error (.unresolvedConflicts ["a"]), halted) := by
    rw [Operation.perform, refused, Answer.wrap]
  exact ⟨⟨hmerge, failed_operation_atomic hmerge⟩, hcommit, failed_operation_atomic hcommit⟩

end Workspace

end GitTutor
