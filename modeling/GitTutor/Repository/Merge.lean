import GitTutor.Merge.Text
import GitTutor.Repository.Checkout

/-!
Merging another history into the current one.

If the other commit is contained in the current one, nothing happens; if it is the other way
round, the head moves on. Otherwise the trees are merged path by path over the newest common
commit, and either a merge commit is made or the merge stops on conflicts.
-/

namespace GitTutor

open Merge

/-! ### Trees -/

/-- What a merge makes of one path. -/
inductive PathMerge where
  /-- The content that stands, if the path stays at all. -/
  | settled (content : Option String)
  /-- The text with its conflicts marked. -/
  | disputed (text : String)

def PathMerge.settled? : PathMerge → Option String
  | .settled content => content
  | .disputed _ => none

def PathMerge.disputed? : PathMerge → Option String
  | .settled _ => none
  | .disputed text => some text

/-- Merges the contents of a path. Where both sides have changed it, their texts are merged; a
side that has dropped it disputes with one that has changed it. -/
def mergePath (labels : Labels) (base ours theirs : Option String) : PathMerge :=
  match pick base ours theirs with
  | some content => .settled content
  | none =>
    match ours, theirs with
    | some o, some t =>
      match mergeText labels (base.getD "") o t with
      | .clean text => .settled (some text)
      | .conflict text => .disputed text
    | some kept, none => .disputed kept
    | none, some kept => .disputed kept
    | none, none => .settled none

structure MergedTree where
  settled : Tree
  disputed : Tree

def mergeTrees (labels : Labels) (base ours theirs : Tree) : MergedTree :=
  let paths := (base.nameSet.union ours.nameSet).union theirs.nameSet
  let merged := fun path => mergePath labels (base.get? path) (ours.get? path) (theirs.get? path)
  ⟨paths.pick fun path _ => (merged path).settled?,
    paths.pick fun path _ => (merged path).disputed?⟩

/-! ### Workspaces -/

inductive MergeResult where
  | upToDate
  | fastForward (id : CommitId)
  | merged (id : CommitId)
  deriving DecidableEq

namespace Workspace

/-- Moves the head and the files on to a commit that contains the current one. -/
def fastForward (w : Workspace) (r : Repository) (ours theirs : CommitId) :
    Except RepoError MergeResult × Workspace :=
  match swapTrees w.files (r.treeOf ours) (r.treeOf theirs) with
  | .error e => (.error e, w)
  | .ok files =>
    (.ok (.fastForward theirs),
      ⟨files, some ({ r with index := r.treeOf theirs }.advance theirs)⟩)

/-- Leaves a merge to be finished: the disputed files show both sides, and the index has the
current side of them. -/
def stopMerge (w : Workspace) (r : Repository) (reference : String) (ours theirs : CommitId)
    (tree : MergedTree) : Except RepoError MergeResult × Workspace :=
  let old := r.treeOf ours
  match inTheWay w.files old tree.disputed with
  | [] =>
    match swapTrees w.files old tree.settled with
    | .error e => (.error e, w)
    | .ok files =>
      let r := { r with
        index := tree.settled.overlay (tree.disputed.pick fun path _ => old.get? path)
        conflicts := tree.disputed.nameSet
        mergeHead := some theirs }
      (.error (.mergeConflict r.headLabel reference tree.disputed.names),
        ⟨files.overlay tree.disputed, some r⟩)
  | paths => (.error (.untrackedOverwritten paths), w)

/-- Makes the merge commit. -/
def finishMerge (w : Workspace) (r : Repository) (now : Int64) (reference : String)
    (author : Signature) (ours theirs : CommitId) (tree : Tree) :
    Except RepoError MergeResult × Workspace :=
  match swapTrees w.files (r.treeOf ours) tree with
  | .error e => (.error e, w)
  | .ok files =>
    let message := s!"Merge branch '{reference}' into {r.headLabel}"
    let (id, r) := { r with index := tree }.record now tree [ours, theirs] message author
    (.ok (.merged id), ⟨files, some r⟩)

/-- Merges one commit into another that is checked out with no tracked changes. -/
def mergeCommits (w : Workspace) (r : Repository) (now : Int64) (reference : String)
    (author : Signature) (ours theirs : CommitId) : Except RepoError MergeResult × Workspace :=
  let base := r.history.mergeBase ours theirs
  if base = some theirs then (.ok .upToDate, w)
  else if base = some ours then w.fastForward r ours theirs
  else
    let baseTree := match base with
      | some id => r.treeOf id
      | none => ∅
    let tree := mergeTrees ⟨"HEAD", reference⟩ baseTree (r.treeOf ours) (r.treeOf theirs)
    if tree.disputed.isEmpty then w.finishMerge r now reference author ours theirs tree.settled
    else w.stopMerge r reference ours theirs tree

/-- Merges what a reference names into the head. -/
def merge (w : Workspace) (now : Int64) (reference : String) (author : Signature) :
    Except RepoError MergeResult × Workspace :=
  w.onRepository fun r =>
    if !r.conflicts.isEmpty then (.error (.unresolvedConflicts r.conflicts.names), w)
    else
      match r.headId with
      | none => (.error (.unbornBranch r.headLabel), w)
      | some ours =>
        match r.resolve reference with
        | .error e => (.error e, w)
        | .ok theirs =>
          match r.trackedChanges w.files with
          | [] => w.mergeCommits r now reference author ours theirs
          | changed => (.error (.localChanges changed), w)

end Workspace

end GitTutor
