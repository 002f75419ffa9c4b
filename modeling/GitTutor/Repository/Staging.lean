import GitTutor.Repository.Basic

/-!
Staging files and committing them.
-/

namespace GitTutor.Workspace

/-- Stages a file as it is, and with that resolves its conflict. -/
def add (w : Workspace) (path : String) : Except RepoError Unit × Workspace :=
  w.onRepository fun r =>
    let staged := fun index : Tree =>
      { w with repository := some { r with index, conflicts := r.conflicts.erase path } }
    match w.files.get? path with
    | some content => (.ok (), staged (r.index.insert path content))
    | none =>
      if r.index.contains path then (.ok (), staged (r.index.erase path))
      else (.error (.fileNotFound path), w)

/-- Commits the index. A merge that is not finished becomes a second parent. -/
def commit (w : Workspace) (now : Int64) (message : String) (author : Signature) :
    Except RepoError CommitId × Workspace :=
  w.onRepository fun r =>
    if !r.conflicts.isEmpty then (.error (.unresolvedConflicts r.conflicts.names), w)
    else if r.index = r.headTree ∧ r.mergeHead = none then (.error .nothingToCommit, w)
    else
      let parents := r.headId.toList ++ r.mergeHead.toList
      let (id, r) := { r with mergeHead := none }.record now r.index parents message author
      (.ok id, { w with repository := some r })

end GitTutor.Workspace
