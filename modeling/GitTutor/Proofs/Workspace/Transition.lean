import GitTutor.Repository.Merge
import GitTutor.Repository.Staging
import GitTutor.Proofs.Table.Within

/-!
What each operation can do to a workspace.

`Transition w op answer w'` has one constructor for each way in which an operation can end, with
all that is known then. Every operation ends in one of these ways (`Operation.transition`); what
holds of workspaces over whole runs is proved from the relation alone.
-/

namespace GitTutor

/-- Whether an operation failed on a merge that stopped, which is the one failure that leaves
something behind. -/
def RepoError.isMergeConflict : RepoError → Bool
  | mergeConflict _ _ _ => true
  | _ => false

namespace Repository

/-- The tree over which two commits are merged. -/
def baseTree (r : Repository) (ours theirs : CommitId) : Tree :=
  match r.history.mergeBase ours theirs with
  | some id => r.treeOf id
  | none => ∅

/-- What the trees of two commits merge to. -/
def threeWay (r : Repository) (reference : String) (ours theirs : CommitId) : MergedTree :=
  mergeTrees ⟨"HEAD", reference⟩ (r.baseTree ours theirs) (r.treeOf ours) (r.treeOf theirs)

/-- The repository after a merge has stopped on conflicts. -/
def stopped (r : Repository) (ours theirs : CommitId) (tree : MergedTree) : Repository :=
  { r with
    index := tree.settled.overlay (tree.disputed.pick fun path _ => (r.treeOf ours).get? path)
    conflicts := tree.disputed.nameSet
    mergeHead := some theirs }

end Repository

namespace Workspace

/-- What can be asked of a workspace. -/
inductive Operation where
  | init (branch : String)
  | write (path content : String)
  | add (path : String)
  | commit (now : Int64) (message : String) (author : Signature)
  | createBranch (name : String)
  | checkout (reference : String)
  | merge (now : Int64) (reference : String) (author : Signature)
  | addRemote (name url : String)
  | removeRemote (name : String)
  | clear

/-- What an operation answers when it succeeds. -/
inductive Answer where
  | done
  | committed (id : CommitId)
  | merged (result : MergeResult)

def Answer.wrap {α : Type} (answer : α → Answer) :
    Except RepoError α × Workspace → Except RepoError Answer × Workspace
  | (.ok a, w) => (.ok (answer a), w)
  | (.error e, w) => (.error e, w)

lemma Answer.wrap_snd {α : Type} (answer : α → Answer) (result : Except RepoError α × Workspace) :
    (Answer.wrap answer result).2 = result.2 := by
  obtain ⟨_ | _, _⟩ := result <;> rfl

def Operation.perform (op : Operation) (w : Workspace) : Except RepoError Answer × Workspace :=
  match op with
  | init branch => Answer.wrap (fun _ => .done) (w.init branch)
  | write path content => (.ok .done, w.write path content)
  | add path => Answer.wrap (fun _ => .done) (w.add path)
  | commit now message author => Answer.wrap .committed (w.commit now message author)
  | createBranch name => Answer.wrap (fun _ => .done) (w.createBranch name)
  | checkout reference => Answer.wrap (fun _ => .done) (w.checkout reference)
  | merge now reference author => Answer.wrap .merged (w.merge now reference author)
  | addRemote name url => Answer.wrap (fun _ => .done) (w.addRemote name url)
  | removeRemote name => Answer.wrap (fun _ => .done) (w.removeRemote name)
  | clear => (.ok .done, .empty)

/-! ### The ways in which an operation can end -/

/-- A merge of `theirs` into the commit `ours` that is checked out can begin. -/
structure Ready (w : Workspace) (r : Repository) (reference : String) (ours theirs : CommitId) :
    Prop where
  repository : w.repository = some r
  calm : r.conflicts = ∅
  tip : r.headId = some ours
  names : r.resolve reference = .ok theirs
  clean : r.trackedChanges w.files = []

lemma Ready.unique {w : Workspace} {r r' : Repository} {reference : String}
    {ours theirs ours' theirs' : CommitId} (h : Ready w r reference ours theirs)
    (h' : Ready w r' reference ours' theirs') : r' = r ∧ ours' = ours ∧ theirs' = theirs := by
  obtain rfl := Option.some.inj (h'.repository.symm.trans h.repository)
  exact ⟨rfl, Option.some.inj (h'.tip.symm.trans h.tip),
    Except.ok.inj (h'.names.symm.trans h.names)⟩

inductive Transition (w : Workspace) : Operation → Except RepoError Answer → Workspace → Prop
  | refused {op : Operation} {e : RepoError} (plain : e.isMergeConflict = false) :
      Transition w op (.error e) w
  | write (path content : String) :
      Transition w (.write path content) (.ok .done) (w.write path content)
  | clear : Transition w .clear (.ok .done) .empty
  | initialized {r : Repository} {branch : String} (hr : w.repository = some r) :
      Transition w (.init branch) (.ok .done) w
  | start {branch : String} (hr : w.repository = none) (valid : validBranchName branch = true) :
      Transition w (.init branch) (.ok .done) ⟨w.files, some (.start branch)⟩
  | stage {r : Repository} {path content : String} (hr : w.repository = some r)
      (file : w.files.get? path = some content) :
      Transition w (.add path) (.ok .done)
        ⟨w.files, some { r with
          index := r.index.insert path content, conflicts := r.conflicts.erase path }⟩
  | unstage {r : Repository} {path : String} (hr : w.repository = some r)
      (file : w.files.get? path = none) (tracked : r.index.contains path = true) :
      Transition w (.add path) (.ok .done)
        ⟨w.files, some { r with
          index := r.index.erase path, conflicts := r.conflicts.erase path }⟩
  | commit {r r' : Repository} {now : Int64} {message : String} {author : Signature}
      {id : CommitId} (hr : w.repository = some r) (calm : r.conflicts = ∅)
      (news : r.index = r.headTree → r.mergeHead ≠ none)
      (recorded : { r with mergeHead := none }.record now r.index
        (r.headId.toList ++ r.mergeHead.toList) message author = (id, r')) :
      Transition w (.commit now message author) (.ok (.committed id)) ⟨w.files, some r'⟩
  | branch {r : Repository} {name : String} {id : CommitId} (hr : w.repository = some r)
      (valid : validBranchName name = true) (new : r.branches.contains name = false)
      (tip : r.headId = some id) :
      Transition w (.createBranch name) (.ok .done)
        ⟨w.files, some { r with branches := r.branches.insert name id }⟩
  | stay {r : Repository} {reference : String} (hr : w.repository = some r)
      (calm : r.conflicts = ∅) (goal : r.destination reference = .ok .here) :
      Transition w (.checkout reference) (.ok .done) w
  | switch {r : Repository} {reference : String} {head : Head} {id : CommitId}
      (hr : w.repository = some r) (calm : r.conflicts = ∅)
      (goal : r.destination reference = .ok (.commit head id)) (same : r.headId = some id) :
      Transition w (.checkout reference) (.ok .done) ⟨w.files, some { r with head }⟩
  | move {r : Repository} {reference : String} {head : Head} {id : CommitId} {files : Tree}
      (hr : w.repository = some r) (calm : r.conflicts = ∅)
      (goal : r.destination reference = .ok (.commit head id)) (other : r.headId ≠ some id)
      (clean : r.trackedChanges w.files = [])
      (swap : swapTrees w.files r.headTree (r.treeOf id) = .ok files) :
      Transition w (.checkout reference) (.ok .done)
        ⟨files, some { r with head, index := r.treeOf id, mergeHead := none }⟩
  | upToDate {r : Repository} {now : Int64} {reference : String} {author : Signature}
      {ours theirs : CommitId} (ready : Ready w r reference ours theirs)
      (base : r.history.mergeBase ours theirs = some theirs) :
      Transition w (.merge now reference author) (.ok (.merged .upToDate)) w
  | fastForward {r : Repository} {now : Int64} {reference : String} {author : Signature}
      {ours theirs : CommitId} {files : Tree} (ready : Ready w r reference ours theirs)
      (other : ours ≠ theirs) (base : r.history.mergeBase ours theirs = some ours)
      (swap : swapTrees w.files (r.treeOf ours) (r.treeOf theirs) = .ok files) :
      Transition w (.merge now reference author) (.ok (.merged (.fastForward theirs)))
        ⟨files, some ({ r with index := r.treeOf theirs }.advance theirs)⟩
  | join {r r' : Repository} {now : Int64} {reference : String} {author : Signature}
      {ours theirs id : CommitId} {files tree : Tree} (ready : Ready w r reference ours theirs)
      (behind : r.history.mergeBase ours theirs ≠ some theirs)
      (ahead : r.history.mergeBase ours theirs ≠ some ours)
      (agreed : (r.threeWay reference ours theirs).disputed = ∅)
      (result : (r.threeWay reference ours theirs).settled = tree)
      (swap : swapTrees w.files (r.treeOf ours) tree = .ok files)
      (recorded : { r with index := tree }.record now tree [ours, theirs]
        s!"Merge branch '{reference}' into {r.headLabel}" author = (id, r')) :
      Transition w (.merge now reference author) (.ok (.merged (.merged id))) ⟨files, some r'⟩
  | conflict {r : Repository} {now : Int64} {reference : String} {author : Signature}
      {ours theirs : CommitId} {files : Tree} {tree : MergedTree}
      (ready : Ready w r reference ours theirs)
      (behind : r.history.mergeBase ours theirs ≠ some theirs)
      (ahead : r.history.mergeBase ours theirs ≠ some ours)
      (result : r.threeWay reference ours theirs = tree) (disputes : tree.disputed ≠ ∅)
      (free : inTheWay w.files (r.treeOf ours) tree.disputed = [])
      (swap : swapTrees w.files (r.treeOf ours) tree.settled = .ok files) :
      Transition w (.merge now reference author)
        (.error (.mergeConflict r.headLabel reference tree.disputed.names))
        ⟨files.overlay tree.disputed, some (r.stopped ours theirs tree)⟩
  | addRemote {r : Repository} {name url : String} (hr : w.repository = some r)
      (new : r.remotes.contains name = false) :
      Transition w (.addRemote name url) (.ok .done)
        ⟨w.files, some { r with remotes := r.remotes.insert name url }⟩
  | removeRemote {r : Repository} {name : String} (hr : w.repository = some r)
      (known : r.remotes.contains name = true) :
      Transition w (.removeRemote name) (.ok .done)
        ⟨w.files, some { r with remotes := r.remotes.erase name }⟩

/-! ### Every operation ends in one of them -/

lemma resolve_plain {r : Repository} {reference : String} {e : RepoError}
    (h : r.resolve reference = .error e) : e.isMergeConflict = false := by
  unfold Repository.resolve at h
  repeat' split at h
  all_goals first
    | (obtain rfl := Except.error.inj h; rfl)
    | cases h

lemma destination_plain {r : Repository} {reference : String} {e : RepoError}
    (h : r.destination reference = .error e) : e.isMergeConflict = false := by
  unfold Repository.destination at h
  split at h
  · cases h
  · split at h
    · cases h
    · split at h
      · cases h
      · rename_i hres
        obtain rfl := Except.error.inj h
        exact resolve_plain hres

lemma swapTrees_plain {files old new : Tree} {e : RepoError}
    (h : swapTrees files old new = .error e) : e.isMergeConflict = false := by
  unfold swapTrees at h
  split at h
  · cases h
  · obtain rfl := Except.error.inj h
    rfl

variable (w : Workspace)

/-- A pair of an answer and a workspace as an outcome of `op`. -/
def Outcome (op : Operation) (result : Except RepoError Answer × Workspace) : Prop :=
  Transition w op result.1 result.2

lemma init_outcome (branch : String) :
    Outcome w (.init branch) (Answer.wrap (fun _ => .done) (w.init branch)) := by
  unfold init
  cases hr : w.repository with
  | some r => exact .initialized hr
  | none =>
    by_cases valid : validBranchName branch = true
    · simp only [valid, if_true]
      exact .start hr valid
    · simp only [valid, Bool.false_eq_true, if_false]
      exact .refused rfl

lemma add_outcome (path : String) :
    Outcome w (.add path) (Answer.wrap (fun _ => .done) (w.add path)) := by
  unfold add onRepository
  cases hr : w.repository with
  | none => exact .refused rfl
  | some r =>
    cases file : w.files.get? path with
    | some content => exact .stage hr file
    | none =>
      by_cases tracked : r.index.contains path = true
      · simp only [tracked, if_true]
        exact .unstage hr file tracked
      · simp only [tracked, Bool.false_eq_true, if_false]
        exact .refused rfl

lemma calm_of_isEmpty {r : Repository} (h : ¬(!r.conflicts.isEmpty) = true) : r.conflicts = ∅ :=
  Table.isEmpty_iff.1 (by simpa using h)

lemma commit_outcome (now : Int64) (message : String) (author : Signature) :
    Outcome w (.commit now message author)
      (Answer.wrap .committed (w.commit now message author)) := by
  unfold commit onRepository
  cases hr : w.repository with
  | none => exact .refused rfl
  | some r =>
    by_cases calm : (!r.conflicts.isEmpty) = true
    · simp only [calm, if_true]
      exact .refused rfl
    · by_cases idle : r.index = r.headTree ∧ r.mergeHead = none
      · simp only [calm, idle, and_self, if_true]
        exact .refused rfl
      · simp only [calm, if_false, idle]
        exact .commit hr (calm_of_isEmpty calm) (fun hi hm => idle ⟨hi, hm⟩) rfl

lemma createBranch_outcome (name : String) :
    Outcome w (.createBranch name) (Answer.wrap (fun _ => .done) (w.createBranch name)) := by
  unfold createBranch onRepository
  by_cases valid : validBranchName name = true
  · cases hr : w.repository with
    | none =>
      simp only [valid, if_true]
      exact .refused rfl
    | some r =>
      by_cases known : r.branches.contains name = true
      · simp only [valid, known, if_true]
        exact .refused rfl
      · cases tip : r.headId with
        | none =>
          simp only [valid, known, if_true, Bool.false_eq_true, if_false, tip]
          exact .refused rfl
        | some id =>
          simp only [valid, known, if_true, Bool.false_eq_true, if_false, tip]
          exact .branch hr valid (by simpa using known) tip
  · simp only [valid, Bool.false_eq_true, if_false]
    exact .refused rfl

lemma checkout_outcome (reference : String) :
    Outcome w (.checkout reference) (Answer.wrap (fun _ => .done) (w.checkout reference)) := by
  unfold checkout onRepository
  cases hr : w.repository with
  | none => exact .refused rfl
  | some r =>
    by_cases calm : (!r.conflicts.isEmpty) = true
    · simp only [calm, if_true]
      exact .refused rfl
    · have hc := calm_of_isEmpty calm
      simp only [calm, Bool.false_eq_true, if_false]
      cases goal : r.destination reference with
      | error e => exact .refused (destination_plain goal)
      | ok place =>
        cases place with
        | here => exact .stay hr hc goal
        | commit head id =>
          by_cases same : r.headId = some id
          · simp only [same, if_true]
            exact .switch hr hc goal same
          · simp only [same, if_false]
            cases clean : r.trackedChanges w.files with
            | cons path paths => exact .refused rfl
            | nil =>
              cases swap : swapTrees w.files r.headTree (r.treeOf id) with
              | error e => exact .refused (swapTrees_plain swap)
              | ok files => exact .move hr hc goal same clean swap

lemma addRemote_outcome (name url : String) :
    Outcome w (.addRemote name url) (Answer.wrap (fun _ => .done) (w.addRemote name url)) := by
  unfold addRemote onRepository
  cases hr : w.repository with
  | none => exact .refused rfl
  | some r =>
    by_cases known : r.remotes.contains name = true
    · simp only [known, if_true]
      exact .refused rfl
    · simp only [known, Bool.false_eq_true, if_false]
      exact .addRemote hr (by simpa using known)

lemma removeRemote_outcome (name : String) :
    Outcome w (.removeRemote name) (Answer.wrap (fun _ => .done) (w.removeRemote name)) := by
  unfold removeRemote onRepository
  cases hr : w.repository with
  | none => exact .refused rfl
  | some r =>
    by_cases known : r.remotes.contains name = true
    · simp only [known, if_true]
      exact .removeRemote hr known
    · simp only [known, Bool.false_eq_true, if_false]
      exact .refused rfl

/-! ### Merging -/

variable {w} {r : Repository} {reference : String} {ours theirs : CommitId}

lemma fastForward_outcome (ready : Ready w r reference ours theirs) (now : Int64)
    (author : Signature) (other : ours ≠ theirs)
    (base : r.history.mergeBase ours theirs = some ours) :
    Outcome w (.merge now reference author)
      (Answer.wrap .merged (w.fastForward r ours theirs)) := by
  unfold fastForward
  cases swap : swapTrees w.files (r.treeOf ours) (r.treeOf theirs) with
  | error e => exact .refused (swapTrees_plain swap)
  | ok files => exact .fastForward ready other base swap

lemma finishMerge_outcome (ready : Ready w r reference ours theirs) (now : Int64)
    (author : Signature) (behind : r.history.mergeBase ours theirs ≠ some theirs)
    (ahead : r.history.mergeBase ours theirs ≠ some ours)
    (agreed : (r.threeWay reference ours theirs).disputed = ∅) :
    Outcome w (.merge now reference author) (Answer.wrap .merged
      (w.finishMerge r now reference author ours theirs
        (r.threeWay reference ours theirs).settled)) := by
  unfold finishMerge
  cases swap : swapTrees w.files (r.treeOf ours) (r.threeWay reference ours theirs).settled with
  | error e => exact .refused (swapTrees_plain swap)
  | ok files => exact .join ready behind ahead agreed rfl swap rfl

lemma stopMerge_outcome (ready : Ready w r reference ours theirs) (now : Int64)
    (author : Signature) (behind : r.history.mergeBase ours theirs ≠ some theirs)
    (ahead : r.history.mergeBase ours theirs ≠ some ours)
    (disputes : (r.threeWay reference ours theirs).disputed ≠ ∅) :
    Outcome w (.merge now reference author) (Answer.wrap .merged
      (w.stopMerge r reference ours theirs (r.threeWay reference ours theirs))) := by
  unfold stopMerge
  simp only
  split
  · rename_i free
    cases swap : swapTrees w.files (r.treeOf ours) (r.threeWay reference ours theirs).settled with
    | error e => exact .refused (swapTrees_plain swap)
    | ok files => exact .conflict (r := r) ready behind ahead rfl disputes free swap
  · exact .refused rfl

lemma mergeCommits_outcome (ready : Ready w r reference ours theirs) (now : Int64)
    (author : Signature) :
    Outcome w (.merge now reference author)
      (Answer.wrap .merged (w.mergeCommits r now reference author ours theirs)) := by
  unfold mergeCommits
  simp only
  by_cases behind : r.history.mergeBase ours theirs = some theirs
  · rw [if_pos behind]
    exact .upToDate ready behind
  · rw [if_neg behind]
    by_cases ahead : r.history.mergeBase ours theirs = some ours
    · rw [if_pos ahead]
      exact fastForward_outcome ready now author (fun h => behind (h ▸ ahead)) ahead
    · rw [if_neg ahead]
      change Outcome w _ (Answer.wrap .merged
        (if (r.threeWay reference ours theirs).disputed.isEmpty then _ else _))
      split
      · rename_i agreed
        exact finishMerge_outcome ready now author behind ahead (Table.isEmpty_iff.1 agreed)
      · rename_i disputes
        exact stopMerge_outcome ready now author behind ahead
          fun h => disputes (Table.isEmpty_iff.2 h)

lemma merge_outcome (w : Workspace) (now : Int64) (reference : String) (author : Signature) :
    Outcome w (.merge now reference author)
      (Answer.wrap .merged (w.merge now reference author)) := by
  unfold merge onRepository
  cases hr : w.repository with
  | none => exact .refused rfl
  | some r =>
    by_cases calm : (!r.conflicts.isEmpty) = true
    · simp only [calm, if_true]
      exact .refused rfl
    · simp only [calm, Bool.false_eq_true, if_false]
      cases tip : r.headId with
      | none => exact .refused rfl
      | some ours =>
        cases names : r.resolve reference with
        | error e => exact .refused (resolve_plain names)
        | ok theirs =>
          cases clean : r.trackedChanges w.files with
          | cons path paths => exact .refused rfl
          | nil =>
            exact mergeCommits_outcome ⟨hr, calm_of_isEmpty calm, tip, names, clean⟩ now author

/-- **Every operation ends in one of the ways that `Transition` lists.** -/
theorem Operation.transition (op : Operation) (w : Workspace) :
    Transition w op (op.perform w).1 (op.perform w).2 := by
  cases op with
  | init branch => exact init_outcome w branch
  | write path content => exact .write path content
  | add path => exact add_outcome w path
  | commit now message author => exact commit_outcome w now message author
  | createBranch name => exact createBranch_outcome w name
  | checkout reference => exact checkout_outcome w reference
  | merge now reference author => exact merge_outcome w now reference author
  | addRemote name url => exact addRemote_outcome w name url
  | removeRemote name => exact removeRemote_outcome w name
  | clear => exact .clear

lemma Operation.unchanged_of_error {op : Operation} {w w' : Workspace} {e : RepoError}
    (h : op.perform w = (.error e, w')) (plain : e.isMergeConflict = false) : w' = w := by
  have ht := op.transition w
  rw [h] at ht
  cases ht with
  | refused _ => rfl
  | conflict _ _ _ _ _ _ _ => cases plain

lemma stopped_of_mergeConflict {w w' : Workspace} {now : Int64} {reference here there : String}
    {author : Signature} {paths : List String}
    (h : w.merge now reference author = (.error (.mergeConflict here there paths), w')) :
    ∃ r ours theirs files, Ready w r reference ours theirs ∧
      (r.threeWay reference ours theirs).disputed ≠ ∅ ∧
      swapTrees w.files (r.treeOf ours) (r.threeWay reference ours theirs).settled = .ok files ∧
      paths = (r.threeWay reference ours theirs).disputed.names ∧
      w' = ⟨files.overlay (r.threeWay reference ours theirs).disputed,
        some (r.stopped ours theirs (r.threeWay reference ours theirs))⟩ := by
  have ht := (Operation.merge now reference author).transition w
  rw [Operation.perform, h, Answer.wrap] at ht
  cases ht with
  | refused plain => cases plain
  | conflict ready _ _ result disputes _ swap =>
    subst result
    exact ⟨_, _, _, _, ready, disputes, swap, rfl, rfl⟩

end Workspace

end GitTutor
