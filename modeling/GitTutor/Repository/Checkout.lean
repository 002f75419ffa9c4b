import GitTutor.Repository.Status

/-!
Swapping the files of one commit for those of another.
-/

namespace GitTutor

/-- The paths at which a file that is not in `old` would be lost to another content. -/
def inTheWay (files old incoming : Tree) : List String :=
  (incoming.pick fun path content =>
    match files.get? path with
    | some found => if !old.contains path && found ≠ content then some () else none
    | none => none).names

/-- The files with those of `old` replaced by those of `new`. -/
def swapTrees (files old new : Tree) : Except RepoError Tree :=
  match inTheWay files old new with
  | [] => .ok ((files.without old).overlay new)
  | paths => .error (.untrackedOverwritten paths)

/-- Where a checkout leads. -/
inductive Destination where
  /-- To the branch that is checked out and has no commit yet. -/
  | here
  | commit (head : Head) (id : CommitId)

def Repository.destination (r : Repository) (reference : String) : Except RepoError Destination :=
  match r.branches.get? reference with
  | some id => .ok (.commit (.branch reference) id)
  | none =>
    if r.head = .branch reference then .ok .here
    else
      match r.resolve reference with
      | .ok id => .ok (.commit (.detached id) id)
      | .error e => .error e

/-- Checks out a branch, or a commit without one. At the commit that is checked out already only
the head moves, and local changes stay. -/
def Workspace.checkout (w : Workspace) (reference : String) : Except RepoError Unit × Workspace :=
  w.onRepository fun r =>
    if !r.conflicts.isEmpty then (.error (.unresolvedConflicts r.conflicts.names), w)
    else
      match r.destination reference with
      | .error e => (.error e, w)
      | .ok .here => (.ok (), w)
      | .ok (.commit head id) =>
        if r.headId = some id then (.ok (), { w with repository := some { r with head } })
        else
          match r.trackedChanges w.files with
          | [] =>
            match swapTrees w.files r.headTree (r.treeOf id) with
            | .error e => (.error e, w)
            | .ok files =>
              (.ok (), ⟨files, some { r with head, index := r.treeOf id, mergeHead := none }⟩)
          | changed => (.error (.localChanges changed), w)

end GitTutor
