import GitTutor.Proofs.Merge.Exchange
import GitTutor.Proofs.Workspace.Checkout
import GitTutor.Proofs.Workspace.MergeOutcome

/-!
Merging two branches either way.

Of two branches either may be checked out and the other merged into it. The merge base is the same
both ways, and so is what becomes of every path, up to the texts in which conflicts show their two
sides. Where nothing but the commit that is checked out lies in the directory, the first checkout
succeeds, nothing is in the way of the merge, and the two merges end alike (`EitherWay`).
-/

namespace GitTutor

open Merge

/-! ### Trees -/

lemma mergePath_comm (labels labels' : Labels) (base ours theirs : Option String) :
    (∃ content, mergePath labels base theirs ours = .settled content ∧
        mergePath labels' base ours theirs = .settled content) ∨
      ∃ text text', mergePath labels base theirs ours = .disputed text ∧
        mergePath labels' base ours theirs = .disputed text' := by
  unfold mergePath
  rw [pick_comm base ours theirs]
  cases pick base ours theirs with
  | some content => exact .inl ⟨content, rfl, rfl⟩
  | none =>
    match ours, theirs with
    | none, none => exact .inl ⟨none, rfl, rfl⟩
    | none, some t => exact .inr ⟨t, t, rfl, rfl⟩
    | some o, none => exact .inr ⟨o, o, rfl, rfl⟩
    | some o, some t =>
      simp only
      cases one : mergeText labels (base.getD "") t o with
      | clean text =>
        rw [(mergeText_clean_comm labels labels').1 one]
        exact .inl ⟨some text, rfl, rfl⟩
      | conflict text =>
        cases other : mergeText labels' (base.getD "") o t with
        | clean text' => cases one.symm.trans ((mergeText_clean_comm labels' labels).1 other)
        | conflict text' => exact .inr ⟨text, text', rfl, rfl⟩

namespace Repository

variable {r : Repository} {ours theirs : CommitId}

lemma baseTree_comm (r : Repository) (ours theirs : CommitId) :
    r.baseTree theirs ours = r.baseTree ours theirs := by
  rw [baseTree, baseTree, History.mergeBase_comm]

lemma settled_threeWay_comm (reference reference' : String) :
    (r.threeWay reference theirs ours).settled = (r.threeWay reference' ours theirs).settled := by
  refine Table.ext fun path => ?_
  rw [threeWay, threeWay, get?_settled, get?_settled, r.baseTree_comm ours theirs]
  rcases mergePath_comm ⟨"HEAD", reference⟩ ⟨"HEAD", reference'⟩
      ((r.baseTree ours theirs).get? path) ((r.treeOf ours).get? path)
      ((r.treeOf theirs).get? path) with ⟨content, one, other⟩ | ⟨text, text', one, other⟩
  · rw [one, other]
  · rw [one, other, PathMerge.settled?, PathMerge.settled?]

lemma disputed_threeWay_comm (reference reference' : String) :
    (r.threeWay reference theirs ours).disputed.nameSet =
      (r.threeWay reference' ours theirs).disputed.nameSet := by
  refine Table.ext fun path => ?_
  rw [Table.get?_nameSet, Table.get?_nameSet, threeWay, threeWay, get?_disputed, get?_disputed,
    r.baseTree_comm ours theirs]
  rcases mergePath_comm ⟨"HEAD", reference⟩ ⟨"HEAD", reference'⟩
      ((r.baseTree ours theirs).get? path) ((r.treeOf ours).get? path)
      ((r.treeOf theirs).get? path) with ⟨content, one, other⟩ | ⟨text, text', one, other⟩
  · rw [one, other]
  · rw [one, other, PathMerge.disputed?, PathMerge.disputed?, Option.map_some, Option.map_some]

/-- What a checkout of a branch at `id` makes of a repository at rest. -/
def settledOn (r : Repository) (name : String) (id : CommitId) : Repository :=
  { r with head := .branch name, index := r.treeOf id, mergeHead := none }

lemma treeOf_settledOn (name : String) (id id' : CommitId) :
    (r.settledOn name id).treeOf id' = r.treeOf id' := rfl

end Repository

/-! ### At rest -/

namespace Workspace

open Repository

variable {w : Workspace} {r : Repository} {ours theirs id : CommitId} {reference name : String}

/-- Only the commit that is checked out lies in the directory: there are no untracked files, no
tracked changes and no conflicts, and no merge is pending. -/
structure AtRest (w : Workspace) (r : Repository) : Prop where
  repository : w.repository = some r
  calm : r.conflicts = ∅
  idle : r.mergeHead = none
  untouched : w.status = .ok []

namespace AtRest

lemma status_eq_empty (h : AtRest w r) : r.status w.files = ∅ := by
  have untouched := h.untouched
  rw [Workspace.status, ask, h.repository, Except.ok.injEq] at untouched
  exact Table.isEmpty_iff.1 (by rw [Table.isEmpty, untouched]; rfl)

lemma trees (h : AtRest w r) : r.headTree = r.index ∧ r.index = w.files :=
  trees_of_status_eq_empty h.calm h.status_eq_empty

lemma trackedChanges (h : AtRest w r) : r.trackedChanges w.files = [] := by
  rw [Repository.trackedChanges, h.status_eq_empty]
  rfl

end AtRest

lemma inTheWay_self (old incoming : Tree) : inTheWay old old incoming = [] := by
  rw [inTheWay_eq_nil_iff]
  intro path content found _ hf ho
  rw [Table.contains_of_get? hf] at ho
  cases ho

lemma swapTrees_self (old new : Tree) : swapTrees old old new = .ok new := by
  rw [swapTrees_eq_ok_iff]
  refine ⟨inTheWay_self old new, Table.ext fun path => ?_⟩
  rw [Table.get?_overlay, Table.get?_without]
  cases hn : new.get? path with
  | some content => rfl
  | none => cases ho : old.get? path <;> simp [Table.contains, ho]

lemma AtRest.checkout (h : AtRest w r) (branch : r.branches.get? name = some id) :
    w.checkout name = (.ok (), ⟨r.treeOf id, some (r.settledOn name id)⟩) := by
  have goal : r.destination name = .ok (.commit (.branch name) id) := by
    rw [destination, branch]
  obtain ⟨staged, files⟩ := h.trees
  by_cases same : r.headId = some id
  · -- Nothing but the head moves, and all else is as it should be.
    have tree : r.treeOf id = r.index := (headTree_of_tip same).symm.trans staged
    rw [checkout_of_same h.repository h.calm goal same, settledOn, tree, ← h.idle, ← files]
  · have swap : swapTrees w.files r.headTree (r.treeOf id) = .ok (r.treeOf id) := by
      rw [← files, ← staged, swapTrees_self]
    rw [checkout_of_other h.repository h.calm goal same h.trackedChanges swap, settledOn]

/-! ### Merging -/

/-- Checks out one branch and merges another into it. -/
def mergeInto (w : Workspace) (target source : String) (now : Int64) (author : Signature) :
    Except RepoError MergeResult × Workspace :=
  match w.checkout target with
  | (.ok (), w') => w'.merge now source author
  | (.error e, w') => (.error e, w')

/-- A merge has made the commit `c` of two others, and its tree lies in the directory. -/
structure Made (outcome : Except RepoError MergeResult × Workspace) (parents : List CommitId)
    (c : Commit) : Prop where
  answer : outcome.1 = .ok (.merged c.id)
  parents : c.parents = parents
  repository : ∃ r, outcome.2.repository = some r ∧ r.history.find? c.id = some c ∧
    r.headId = some c.id ∧ r.index = c.tree
  files : outcome.2.files = c.tree

/-- A merge of the branch `source` into `target` has stopped on conflicts in `paths`. -/
structure Stopped (outcome : Except RepoError MergeResult × Workspace) (target source : String)
    (paths : List String) (r : Repository) : Prop where
  answer : outcome.1 = .error (.mergeConflict target source paths)
  repository : outcome.2.repository = some r
  conflicts : r.conflicts.names = paths

/-- How two merges end alike, of `b` into `a` and of `a` into `b`: both make a commit of one tree,
or both stop on one set of paths and agree on all others, or one finds nothing to merge and the
other at most has to move on. -/
inductive EitherWay (a b : String) (ours theirs : CommitId)
    (outcome outcome' : Except RepoError MergeResult × Workspace) : Prop
  | made {c c' : Commit} (one : Made outcome [ours, theirs] c)
      (other : Made outcome' [theirs, ours] c') (tree : c.tree = c'.tree)
  | stopped {paths : List String} {r r' : Repository} (one : Stopped outcome a b paths r)
      (other : Stopped outcome' b a paths r')
      (same : ∀ path, path ∉ paths → r.index.get? path = r'.index.get? path ∧
        outcome.2.files.get? path = outcome'.2.files.get? path)
  | contained (one : outcome.1 = .ok .upToDate)
      (other : outcome'.1 = .ok .upToDate ∨ outcome'.1 = .ok (.fastForward ours))
  | containing (one : outcome.1 = .ok .upToDate ∨ outcome.1 = .ok (.fastForward theirs))
      (other : outcome'.1 = .ok .upToDate)

variable {a b : String}

lemma ready_settledOn (hl : Linked r) (calm : r.conflicts = ∅)
    (ha : r.branches.get? a = some ours) (hb : r.branches.get? b = some theirs) :
    Ready ⟨r.treeOf ours, some (r.settledOn a ours)⟩ (r.settledOn a ours) b ours theirs := by
  have goal : r.destination a = .ok (.commit (.branch a) ours) := by
    rw [destination, ha]
  have hl' : Linked (r.settledOn a ours) :=
    (hl.checkout goal).congr rfl rfl rfl fun h => by cases h
  have tip : (r.settledOn a ours).headId = some ours := ha
  exact ⟨rfl, calm, tip, hl'.resolve_branch hb,
    trackedChanges_eq_nil calm (headTree_of_tip tip) fun _ _ h => h⟩

section

variable (hl : Linked r) (rest : AtRest w r) (ha : r.branches.get? a = some ours)
  (hb : r.branches.get? b = some theirs) {now : Int64} {author : Signature}

include hl rest ha hb

lemma mergeInto_eq (now : Int64) (author : Signature) :
    w.mergeInto a b now author =
      mergeCommits ⟨r.treeOf ours, some (r.settledOn a ours)⟩ (r.settledOn a ours) now b author
        ours theirs := by
  rw [mergeInto, rest.checkout ha]
  exact merge_of_ready (ready_settledOn hl rest.calm ha hb) now author

lemma mergeInto_apart (behind : r.history.mergeBase ours theirs ≠ some theirs)
    (ahead : r.history.mergeBase ours theirs ≠ some ours) :
    w.mergeInto a b now author =
      if (r.threeWay b ours theirs).disputed.isEmpty then
        finishMerge ⟨r.treeOf ours, some (r.settledOn a ours)⟩ (r.settledOn a ours) now b author
          ours theirs (r.threeWay b ours theirs).settled
      else
        stopMerge ⟨r.treeOf ours, some (r.settledOn a ours)⟩ (r.settledOn a ours) b ours theirs
          (r.threeWay b ours theirs) := by
  rw [mergeInto_eq hl rest ha hb, mergeCommits]
  exact (if_neg behind).trans (if_neg ahead)

lemma mergeInto_made (behind : r.history.mergeBase ours theirs ≠ some theirs)
    (ahead : r.history.mergeBase ours theirs ≠ some ours)
    (agreed : (r.threeWay b ours theirs).disputed = ∅) :
    ∃ c, Made (w.mergeInto a b now author) [ours, theirs] c ∧
      c.tree = (r.threeWay b ours theirs).settled := by
  rw [mergeInto_apart hl rest ha hb behind ahead, if_pos (Table.isEmpty_iff.2 agreed), finishMerge,
    treeOf_settledOn, swapTrees_self]
  refine ⟨_, ⟨rfl, rfl, ⟨_, rfl, ?_, ?_, ?_⟩, rfl⟩, rfl⟩
  · rw [Repository.record, history_advance]
    exact find?_insert_self _ _
  · rw [Repository.record, headId_advance]
  · rw [Repository.record, index_advance]
    rfl

lemma mergeInto_stopped (behind : r.history.mergeBase ours theirs ≠ some theirs)
    (ahead : r.history.mergeBase ours theirs ≠ some ours)
    (disputes : (r.threeWay b ours theirs).disputed ≠ ∅) :
    ∃ r', Stopped (w.mergeInto a b now author) a b (r.threeWay b ours theirs).disputed.names r' ∧
      ∀ path, path ∉ (r.threeWay b ours theirs).disputed.names →
        r'.index.get? path = (r.threeWay b ours theirs).settled.get? path ∧
          (w.mergeInto a b now author).2.files.get? path =
            (r.threeWay b ours theirs).settled.get? path := by
  have hne : ¬(r.threeWay b ours theirs).disputed.isEmpty = true := mt Table.isEmpty_iff.1 disputes
  have hrun : w.mergeInto a b now author =
      (.error (.mergeConflict a b (r.threeWay b ours theirs).disputed.names),
        ⟨(r.threeWay b ours theirs).settled.overlay (r.threeWay b ours theirs).disputed,
          some ((r.settledOn a ours).stopped ours theirs (r.threeWay b ours theirs))⟩) := by
    rw [mergeInto_apart hl rest ha hb behind ahead, if_neg hne]
    simp only [stopMerge, treeOf_settledOn, inTheWay_self, swapTrees_self]
    rfl
  rw [hrun]
  refine ⟨_, ⟨rfl, rfl, Table.names_nameSet _⟩, fun path hp => ?_⟩
  rw [Table.mem_names_iff, Bool.not_eq_true, Table.contains_eq_false_iff] at hp
  constructor
  · refine (get?_index_stopped (r := r.settledOn a ours) path).trans ?_
    rw [show (r.settledOn a ours).threeWay b ours theirs = r.threeWay b ours theirs from rfl, hp]
    rfl
  · rw [Table.get?_overlay, hp]
    rfl

lemma mergeInto_upToDate (base : r.history.mergeBase ours theirs = some theirs) :
    (w.mergeInto a b now author).1 = .ok .upToDate := by
  rw [mergeInto_eq hl rest ha hb, mergeCommits]
  exact congrArg Prod.fst (if_pos base)

lemma mergeInto_ahead (base : r.history.mergeBase ours theirs = some ours) :
    (w.mergeInto a b now author).1 = .ok .upToDate ∨
      (w.mergeInto a b now author).1 = .ok (.fastForward theirs) := by
  by_cases same : r.history.mergeBase ours theirs = some theirs
  · exact .inl (mergeInto_upToDate hl rest ha hb same)
  · refine .inr ?_
    rw [mergeInto_eq hl rest ha hb, mergeCommits]
    refine (congrArg Prod.fst ((if_neg same).trans (if_pos base))).trans ?_
    rw [fastForward, treeOf_settledOn, swapTrees_self]

end

/-- **Which of two branches is merged into the other makes no difference.** In a reachable
workspace at rest, the merge of one branch into another and that of the other into the one end
alike: they make commits of one tree, or stop on one set of paths with all other paths the same,
or there is nothing to merge one way and at most a head to move on the other. -/
theorem merge_either_way (hw : Reachable w) (rest : AtRest w r)
    (ha : r.branches.get? a = some ours) (hb : r.branches.get? b = some theirs)
    (now now' : Int64) (author author' : Signature) :
    EitherWay a b ours theirs (w.mergeInto a b now author) (w.mergeInto b a now' author') := by
  obtain ⟨hl, -⟩ := hw.sound r rest.repository
  have hcomm := History.mergeBase_comm r.history ours theirs
  by_cases behind : r.history.mergeBase ours theirs = some theirs
  · exact .contained (mergeInto_upToDate hl rest ha hb behind)
      (mergeInto_ahead hl rest hb ha (hcomm ▸ behind))
  by_cases ahead : r.history.mergeBase ours theirs = some ours
  · exact .containing (mergeInto_ahead hl rest ha hb ahead)
      (mergeInto_upToDate hl rest hb ha (hcomm ▸ ahead))
  -- The commits are apart, so that their trees are merged both ways.
  have settled : (r.threeWay a theirs ours).settled = (r.threeWay b ours theirs).settled :=
    settled_threeWay_comm a b
  have names : (r.threeWay a theirs ours).disputed.names =
      (r.threeWay b ours theirs).disputed.names := by
    rw [← Table.names_nameSet, disputed_threeWay_comm a b, Table.names_nameSet]
  have agree : (r.threeWay a theirs ours).disputed = ∅ ↔
      (r.threeWay b ours theirs).disputed = ∅ := by
    rw [← Table.names_eq_nil_iff, names, Table.names_eq_nil_iff]
  by_cases agreed : (r.threeWay b ours theirs).disputed = ∅
  · obtain ⟨c, one, tree⟩ := mergeInto_made hl rest ha hb behind ahead agreed
    obtain ⟨c', other, tree'⟩ :=
      mergeInto_made hl rest hb ha (hcomm ▸ ahead) (hcomm ▸ behind) (agree.2 agreed)
    exact .made one other (by rw [tree, tree', settled])
  · obtain ⟨r₁, one, same⟩ := mergeInto_stopped hl rest ha hb behind ahead agreed
    obtain ⟨r₂, other, same'⟩ :=
      mergeInto_stopped hl rest hb ha (hcomm ▸ ahead) (hcomm ▸ behind) (mt agree.1 agreed)
    rw [names] at other same'
    refine .stopped one other fun path hp => ?_
    obtain ⟨index, files⟩ := same path hp
    obtain ⟨index', files'⟩ := same' path hp
    exact ⟨by rw [index, index', settled], by rw [files, files', settled]⟩

/-- Either way the merge stops on the one file that both branches have changed. -/
theorem merge_either_way_diverged :
    Reachable diverged ∧ AtRest diverged divergedRepository ∧
      divergedRepository.branches.get? "main" = some mainId ∧
      divergedRepository.branches.get? "b" = some sideId ∧
      EitherWay "main" "b" mainId sideId (diverged.mergeInto "main" "b" 0 ⟨"", ""⟩)
        (diverged.mergeInto "b" "main" 0 ⟨"", ""⟩) := by
  have rest : AtRest diverged divergedRepository := ⟨rfl, rfl, rfl, by decide +kernel⟩
  have hmain : divergedRepository.branches.get? "main" = some mainId := by decide +kernel
  have hside : divergedRepository.branches.get? "b" = some sideId := by decide +kernel
  exact ⟨reachable_diverged, rest, hmain, hside,
    merge_either_way reachable_diverged rest hmain hside 0 0 ⟨"", ""⟩ ⟨"", ""⟩⟩

end Workspace

end GitTutor
