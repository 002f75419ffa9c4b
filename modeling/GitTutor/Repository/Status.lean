import GitTutor.Repository.Basic

/-!
How the files of a workspace compare with the index and with the commit that is checked out.
-/

namespace GitTutor

inductive FileStatus where
  /-- Only among the files. -/
  | untracked
  /-- Staged, and not in the commit. -/
  | stagedNew
  /-- Staged, and different in the commit. -/
  | stagedModified
  /-- Different in the index. -/
  | modified
  /-- Tracked, and not among the files. -/
  | deleted
  /-- Changed on both sides of a merge, and not staged since. -/
  | conflicted
  deriving DecidableEq

/-- The status of a path with its contents in the commit, in the index and among the files. -/
def FileStatus.ofContents (head index file : Option String) : Option FileStatus :=
  match head, index, file with
  | _, none, some _ => some .untracked
  | _, some _, none => some .deleted
  | some _, none, none => some .deleted
  | none, none, none => none
  | none, some i, some f => some (if i ≠ f then .modified else .stagedNew)
  | some h, some i, some f =>
    if i ≠ f then some .modified else if h ≠ i then some .stagedModified else none

namespace Repository

/-- The status of every path that has one. -/
def status (r : Repository) (files : Tree) : Table FileStatus :=
  let head := r.headTree
  let paths := (head.nameSet.union r.index.nameSet).union files.nameSet
  paths.pick fun path _ =>
    if r.conflicts.contains path then some .conflicted
    else FileStatus.ofContents (head.get? path) (r.index.get? path) (files.get? path)

/-- The tracked paths that have changed. -/
def trackedChanges (r : Repository) (files : Tree) : List String :=
  ((r.status files).entries.filter fun e => e.2 ≠ .untracked).map (·.1)

end Repository

def Workspace.status (w : Workspace) : Except RepoError (List (String × FileStatus)) :=
  w.ask fun r => .ok (r.status w.files).entries

end GitTutor
