import GitTutor.Proofs.Repository.References
import GitTutor.Proofs.Workspace.Transition
import GitTutor.Proofs.Workspace.Trees

/-!
What holds in every workspace that operations make from the empty one.

Two things carry the results about whole runs. Everything that names a commit names one of the
history (`Repository.Linked`), and the paths only grow from layer to layer: those of the commit
that is checked out are staged, and what is staged lies among the files (`Repository.Layered`).
Since no operation removes a file, no step breaks the second.
-/

namespace GitTutor

namespace Repository

open History

variable {r : Repository} {files : Tree} {ours theirs : CommitId} {reference : String}

/-! ### Merged trees -/

lemma baseTree_within (hg : r.history.Grown) :
    (r.baseTree ours theirs).Within (r.treeOf ours) ∧
      (r.baseTree ours theirs).Within (r.treeOf theirs) := by
  unfold baseTree
  split
  · rename_i hbase
    obtain ⟨ho, ht⟩ := leads_of_mergeBase hbase
    exact ⟨treeOf_within hg ho, treeOf_within hg ht⟩
  · exact ⟨Table.Within.empty _, Table.Within.empty _⟩

lemma exists_of_base (hg : r.history.Grown) {path : String}
    (h : (r.baseTree ours theirs).get? path ≠ none) :
    (r.treeOf ours).get? path ≠ none ∧ (r.treeOf theirs).get? path ≠ none := by
  obtain ⟨content, hc⟩ := Option.ne_none_iff_exists'.1 h
  obtain ⟨_, ho⟩ := (baseTree_within hg).1.get? hc
  obtain ⟨_, ht⟩ := (baseTree_within hg).2.get? hc
  exact ⟨by simp [ho], by simp [ht]⟩

lemma threeWay_spec (hg : r.history.Grown) (reference : String) (ours theirs : CommitId)
    (path : String) :
    (∃ text, (r.threeWay reference ours theirs).settled.get? path = none ∧
        (r.threeWay reference ours theirs).disputed.get? path = some text ∧
        Disputes ⟨"HEAD", reference⟩ ((r.baseTree ours theirs).get? path)
          ((r.treeOf ours).get? path) ((r.treeOf theirs).get? path) text) ∨
      (r.threeWay reference ours theirs).disputed.get? path = none ∧
        Settles ⟨"HEAD", reference⟩ ((r.baseTree ours theirs).get? path)
          ((r.treeOf ours).get? path) ((r.treeOf theirs).get? path)
          ((r.threeWay reference ours theirs).settled.get? path) ∧
        ∀ text, ¬Disputes ⟨"HEAD", reference⟩ ((r.baseTree ours theirs).get? path)
          ((r.treeOf ours).get? path) ((r.treeOf theirs).get? path) text := by
  have hs := get?_settled ⟨"HEAD", reference⟩ (r.baseTree ours theirs) (r.treeOf ours)
    (r.treeOf theirs) path
  have hd := get?_disputed ⟨"HEAD", reference⟩ (r.baseTree ours theirs) (r.treeOf ours)
    (r.treeOf theirs) path
  rcases mergePath_spec ⟨"HEAD", reference⟩ (fun h => (exists_of_base hg h).1)
    (fun h => (exists_of_base hg h).2) with ⟨text, hm, hdis⟩ | ⟨content, hm, hset, hno⟩
  · rw [hm] at hs hd
    exact .inl ⟨text, hs, hd, hdis⟩
  · rw [hm] at hs hd
    have hs : (r.threeWay reference ours theirs).settled.get? path = content := hs
    exact .inr ⟨hd, hs ▸ hset, hno⟩

lemma threeWay_eq_none (hg : r.history.Grown) {path : String}
    (hs : (r.threeWay reference ours theirs).settled.get? path = none)
    (hd : (r.threeWay reference ours theirs).disputed.get? path = none) :
    (r.treeOf ours).get? path = none ∧ (r.treeOf theirs).get? path = none := by
  rcases threeWay_spec hg reference ours theirs path with ⟨_, -, hd', -⟩ | ⟨-, hset, -⟩
  · rw [hd] at hd'
    cases hd'
  · rw [hs] at hset
    exact hset.eq_none (fun h => (exists_of_base hg h).1) (fun h => (exists_of_base hg h).2)

lemma within_of_agreed (hg : r.history.Grown)
    (agreed : (r.threeWay reference ours theirs).disputed = ∅) :
    (r.treeOf ours).Within (r.threeWay reference ours theirs).settled ∧
      (r.treeOf theirs).Within (r.threeWay reference ours theirs).settled := by
  have hcase : ∀ path, (r.threeWay reference ours theirs).settled.get? path = none →
      (r.treeOf ours).get? path = none ∧ (r.treeOf theirs).get? path = none :=
    fun path hs => threeWay_eq_none hg hs (by rw [agreed, Table.get?_empty])
  exact ⟨Table.Within.of_none fun path hn => (hcase path hn).1,
    Table.Within.of_none fun path hn => (hcase path hn).2⟩

lemma get?_index_stopped (path : String) :
    (r.stopped ours theirs (r.threeWay reference ours theirs)).index.get? path =
      (((r.threeWay reference ours theirs).disputed.get? path).bind fun _ =>
        (r.treeOf ours).get? path).or ((r.threeWay reference ours theirs).settled.get? path) := by
  rw [stopped, Table.get?_overlay, Table.get?_pick]

/-! ### Layered repositories -/

/-- The paths of the commit that is checked out, of a merge that is not finished and of its
conflicts are staged, and what is staged lies among the files. -/
structure Layered (r : Repository) (files : Tree) : Prop where
  headTree : r.headTree.Within r.index
  mergeTree : ∀ {id}, r.mergeHead = some id → (r.treeOf id).Within r.index
  conflicts : r.conflicts.Within r.index
  index : r.index.Within files
  pending : r.mergeHead = none → r.conflicts = ∅

lemma index_within_headTree (calm : r.conflicts = ∅) (clean : r.trackedChanges files = []) :
    r.index.Within r.headTree := by
  intro path h
  obtain ⟨content, h⟩ := Table.contains_iff.1 h
  exact Table.contains_of_get? (eq_of_clean calm clean h).1

namespace Layered

lemma index_eq_headTree (hl : Layered r files) (calm : r.conflicts = ∅)
    (clean : r.trackedChanges files = []) : r.index = r.headTree := by
  refine Table.ext fun path => ?_
  cases hi : r.index.get? path with
  | some content => exact (eq_of_clean calm clean hi).1.symm
  | none => exact (hl.headTree.get?_eq_none hi).symm

lemma start (branch : String) (files : Tree) : Layered (.start branch) files where
  headTree := Table.Within.empty _
  mergeTree h := by cases h
  conflicts := Table.Within.empty _
  index := Table.Within.empty _
  pending := fun _ => rfl

lemma mono (hl : Layered r files) {files' : Tree} (h : files.Within files') :
    Layered r files' :=
  { hl with index := hl.index.trans h }

lemma stage (hl : Layered r files) {path content : String} (file : files.get? path = some content) :
    Layered { r with index := r.index.insert path content, conflicts := r.conflicts.erase path }
      files where
  headTree := hl.headTree.insert path content
  mergeTree h := (hl.mergeTree h).insert path content
  conflicts := (hl.conflicts.insert path content).erase_left path
  index := hl.index.insert_left (Table.contains_of_get? file) content
  pending h := by
    rw [hl.pending h]
    rfl

lemma congr (hl : Layered r files) {r' : Repository} (history : r'.history = r.history)
    (headId : r'.headId = r.headId) (index : r'.index = r.index)
    (conflicts : r'.conflicts = r.conflicts) (mergeHead : r'.mergeHead = r.mergeHead) :
    Layered r' files := by
  have ht : ∀ id, r'.treeOf id = r.treeOf id := fun id => by rw [treeOf, treeOf, history]
  have hh : r'.headTree = r.headTree := by
    rw [Repository.headTree, Repository.headTree, headId]
    split <;> simp only [ht]
  refine ⟨?_, ?_, ?_, ?_, ?_⟩
  · rw [hh, index]
    exact hl.headTree
  · intro id h
    rw [ht, index]
    exact hl.mergeTree (mergeHead ▸ h)
  · rw [conflicts, index]
    exact hl.conflicts
  · rw [index]
    exact hl.index
  · rw [mergeHead, conflicts]
    exact hl.pending

/-- A calm repository whose index is the commit that is checked out. A merge that was pending
stays so, as the other side has no path beyond the old index. -/
lemma settle {r' : Repository} {files' : Tree} (hl : Layered r files)
    (headTree : r'.headTree = r'.index) (conflicts : r'.conflicts = ∅)
    (mergeHead : r'.mergeHead = none ∨ r'.mergeHead = r.mergeHead ∧ r.index.Within r'.index ∧
      ∀ id, r.mergeHead = some id → r'.treeOf id = r.treeOf id)
    (index : r'.index.Within files') : Layered r' files' where
  headTree := headTree ▸ Table.Within.refl _
  mergeTree h := by
    rcases mergeHead with hm | ⟨hm, hi, ht⟩
    · rw [hm] at h
      cases h
    · rw [hm] at h
      rw [ht _ h]
      exact (hl.mergeTree h).trans hi
  conflicts := conflicts ▸ Table.Within.empty _
  index := index
  pending := fun _ => conflicts

end Layered

/-! ### What the steps of a workspace leave -/

lemma commit_sound (hl : Linked r) (layers : Layered r files) (calm : r.conflicts = ∅)
    {r' : Repository} {now : Int64} {message : String} {author : Signature} {id : CommitId}
    (fresh : id ∉ r.history.ids)
    (recorded : { r with mergeHead := none }.record now r.index
      (r.headId.toList ++ r.mergeHead.toList) message author = (id, r')) :
    Linked r' ∧ Layered r' files := by
  have hl' : Linked { r with mergeHead := none } := hl.congr rfl rfl rfl fun h => by cases h
  have hparent : ∀ p ∈ r.headId.toList ++ r.mergeHead.toList,
      r.headId = some p ∨ r.mergeHead = some p := by
    intro p hp
    rwa [List.mem_append, Option.mem_toList, Option.mem_toList] at hp
  have hr' := hl'.recorded recorded fresh ?known ?rooted ?trees
  · exact ⟨hr'.linked, layers.settle (hr'.headTree.trans hr'.index.symm)
      (hr'.conflicts.trans calm) (.inl hr'.mergeHead) (hr'.index ▸ layers.index)⟩
  case known =>
    intro p hp
    rcases hparent p hp with h | h
    · exact hl.head h
    · exact hl.mergeHead h
  case rooted =>
    intro hnone
    rw [List.append_eq_nil_iff, Option.toList_eq_nil_iff] at hnone
    exact hl.born hnone.1
  case trees =>
    intro p hp
    change (r.treeOf p).Within r.index
    rcases hparent p hp with h | h
    · rw [← headTree_of_tip h]
      exact layers.headTree
    · exact layers.mergeTree h

lemma fastForward_sound (hl : Linked r) (layers : Layered r files) (calm : r.conflicts = ∅)
    (clean : r.trackedChanges files = []) {files' : Tree} (tip : r.headId = some ours)
    (known : theirs ∈ r.history.ids) (leads : Leads r.history theirs ours)
    (kept : (r.treeOf theirs).Within files') :
    Linked ({ r with index := r.treeOf theirs }.advance theirs) ∧
      Layered ({ r with index := r.treeOf theirs }.advance theirs) files' := by
  have hl' : Linked { r with index := r.treeOf theirs } := hl.congr rfl rfl rfl hl.mergeHead
  refine ⟨hl'.advance_of_mem known, layers.settle ?_ (conflicts_advance.trans calm)
    (.inr ⟨mergeHead_advance, ?_, fun _ _ => treeOf_advance _⟩) ?_⟩
  · rw [headTree_advance, index_advance]
    rfl
  · rw [index_advance]
    refine (index_within_headTree calm clean).trans ?_
    rw [headTree_of_tip tip]
    exact treeOf_within hl.grown leads
  · rw [index_advance]
    exact kept

lemma join_sound (hl : Linked r) (layers : Layered r files) (calm : r.conflicts = ∅)
    (clean : r.trackedChanges files = []) {r' : Repository} {files' tree : Tree} {now : Int64}
    {message : String} {author : Signature} {id : CommitId} (tip : r.headId = some ours)
    (known : theirs ∈ r.history.ids) (agreed : (r.threeWay reference ours theirs).disputed = ∅)
    (result : (r.threeWay reference ours theirs).settled = tree)
    (kept : tree.Within files') (fresh : id ∉ r.history.ids)
    (recorded : { r with index := tree }.record now tree [ours, theirs] message author = (id, r')) :
    Linked r' ∧ Layered r' files' := by
  have hl' : Linked { r with index := tree } := hl.congr rfl rfl rfl hl.mergeHead
  have hsides := within_of_agreed hl.grown agreed
  rw [result] at hsides
  have hparent : ∀ p ∈ [ours, theirs], p = ours ∨ p = theirs := fun p hp => by simpa using hp
  have hr' := hl'.recorded recorded fresh ?known (fun h => by cases h) ?trees
  · refine ⟨hr'.linked, layers.settle (hr'.headTree.trans hr'.index.symm)
      (hr'.conflicts.trans calm) (.inr ⟨hr'.mergeHead, ?_, ?_⟩) (hr'.index ▸ kept)⟩
    -- A merge that was pending has no path beyond the old index, and that is in our side.
    · rw [hr'.index]
      refine (index_within_headTree calm clean).trans ?_
      rw [headTree_of_tip tip]
      exact hsides.1
    · exact fun m hm => hr'.treeOf m (hl.mergeHead hm)
  case known =>
    intro p hp
    rcases hparent p hp with rfl | rfl
    · exact hl.head tip
    · exact known
  case trees =>
    intro p hp
    rcases hparent p hp with rfl | rfl
    · exact hsides.1
    · exact hsides.2

lemma stopped_sound (hl : Linked r) (tip : r.headId = some ours)
    (known : theirs ∈ r.history.ids) {files' : Tree} {tree : MergedTree}
    (result : r.threeWay reference ours theirs = tree) (kept : tree.settled.Within files') :
    Linked (r.stopped ours theirs tree) ∧
      Layered (r.stopped ours theirs tree) (files'.overlay tree.disputed) := by
  subst result
  -- A path that is not staged is neither disputed nor in either of the two commits.
  have hcase : ∀ path,
      (r.stopped ours theirs (r.threeWay reference ours theirs)).index.get? path = none →
      (r.threeWay reference ours theirs).disputed.get? path = none ∧
        (r.treeOf ours).get? path = none ∧ (r.treeOf theirs).get? path = none := by
    intro path hn
    rw [get?_index_stopped, Option.or_eq_none_iff] at hn
    rcases threeWay_spec hl.grown reference ours theirs path with ⟨_, -, hd, hdis⟩ | ⟨hd, -⟩
    · obtain ⟨o, _, ho, -⟩ := hdis.clash
      rw [hd, Option.bind_some, ho] at hn
      cases hn.1
    · exact ⟨hd, threeWay_eq_none hl.grown hn.2 hd⟩
  refine ⟨hl.congr rfl rfl rfl fun h => Option.some.inj h ▸ known, ?_, ?_, ?_, ?_, ?_⟩
  · refine Table.Within.of_none fun path hn => ?_
    change r.headTree.get? path = none
    rw [headTree_of_tip tip]
    exact (hcase path hn).2.1
  · intro id h
    obtain rfl := Option.some.inj h
    exact Table.Within.of_none fun path hn => (hcase path hn).2.2
  · refine Table.Within.of_none fun path hn => ?_
    rw [stopped, Table.get?_nameSet, (hcase path hn).1]
    rfl
  · refine Table.Within.of_none fun path hn => ?_
    rw [Table.get?_overlay, Option.or_eq_none_iff] at hn
    rw [get?_index_stopped, hn.1]
    exact kept.get?_eq_none hn.2
  · intro h
    cases h

end Repository

namespace Workspace

open Repository

/-! ### Runs of operations -/

/-- The ids of the commits that a workspace has. -/
def ids (w : Workspace) : List CommitId :=
  match w.repository with
  | none => []
  | some r => r.history.ids

/-- The id of the commit that an operation has made. -/
def Answer.newId : Except RepoError Answer → Option CommitId
  | .ok (.committed id) => some id
  | .ok (.merged (.merged id)) => some id
  | _ => none

/-- An operation is fresh if the commit that it makes, should it make one, has an id that no commit
of the workspace has. -/
def Operation.Fresh (op : Operation) (w : Workspace) : Prop :=
  ∀ id ∈ Answer.newId (op.perform w).1, id ∉ w.ids

instance (op : Operation) (w : Workspace) : Decidable (op.Fresh w) :=
  inferInstanceAs (Decidable (∀ id ∈ Answer.newId (op.perform w).1, id ∉ w.ids))

lemma not_mem_of_fresh {w : Workspace} {r : Repository} {answer : Except RepoError Answer}
    (fresh : ∀ id ∈ Answer.newId answer, id ∉ w.ids) (hr : w.repository = some r) {id : CommitId}
    (new : Answer.newId answer = some id) : id ∉ r.history.ids := by
  have hid := fresh id new
  rwa [ids, hr] at hid

/-- A workspace that fresh operations make from the empty one. -/
inductive Reachable : Workspace → Prop
  | empty : Reachable .empty
  | step (op : Operation) {w : Workspace} (before : Reachable w) (fresh : op.Fresh w) :
      Reachable (op.perform w).2

/-- The workspace that operations leave, if they are all fresh. -/
def run (w : Workspace) : List Operation → Option Workspace
  | [] => some w
  | op :: ops => if op.Fresh w then run (op.perform w).2 ops else none

lemma Reachable.run {w w' : Workspace} (h : Reachable w) (ops : List Operation)
    (hrun : w.run ops = some w') : Reachable w' := by
  induction ops generalizing w with
  | nil => exact Option.some.inj hrun ▸ h
  | cons op ops ih =>
    rw [Workspace.run] at hrun
    split at hrun
    · rename_i fresh
      exact ih (h.step op fresh) hrun
    · cases hrun

/-- What every reachable workspace satisfies. -/
def Sound (w : Workspace) : Prop :=
  ∀ r, w.repository = some r → r.Linked ∧ r.Layered w.files

lemma Sound.empty : Sound .empty := by
  intro r h
  cases h

lemma sound_of {files : Tree} {r : Repository} (h : r.Linked ∧ r.Layered files) :
    Sound ⟨files, some r⟩ := by
  intro r' h'
  exact Option.some.inj h' ▸ h

lemma Sound.step {w w' : Workspace} {op : Operation} {answer : Except RepoError Answer}
    (hs : Sound w) (ht : Transition w op answer w')
    (fresh : ∀ id ∈ Answer.newId answer, id ∉ w.ids) : Sound w' := by
  cases ht with
  | refused _ => exact hs
  | write path content =>
    intro r hr
    exact ⟨(hs r hr).1, (hs r hr).2.mono ((Table.Within.refl _).insert path content)⟩
  | clear => exact Sound.empty
  | initialized _ => exact hs
  | start _ valid => exact sound_of ⟨.start valid, .start _ _⟩
  | stage hr file =>
    obtain ⟨hl, layers⟩ := hs _ hr
    exact sound_of ⟨hl.congr rfl rfl rfl hl.mergeHead, layers.stage file⟩
  | unstage hr file tracked =>
    -- What is staged lies among the files, so that this never happens.
    have := (hs _ hr).2.index _ tracked
    rw [Table.contains, file] at this
    cases this
  | commit hr calm _ recorded =>
    obtain ⟨hl, layers⟩ := hs _ hr
    have hid := not_mem_of_fresh fresh hr rfl
    exact sound_of (commit_sound hl layers calm hid recorded)
  | branch hr valid _ tip =>
    obtain ⟨hl, layers⟩ := hs _ hr
    exact sound_of ⟨hl.createBranch valid tip,
      layers.congr rfl ((headId_insert_tip tip).trans tip.symm) rfl rfl rfl⟩
  | stay _ _ _ => exact hs
  | switch hr _ goal same =>
    obtain ⟨hl, layers⟩ := hs _ hr
    exact sound_of ⟨hl.checkout goal,
      layers.congr rfl ((headId_of_destination goal).trans same.symm) rfl rfl rfl⟩
  | move hr calm goal _ _ swap =>
    obtain ⟨hl, layers⟩ := hs _ hr
    exact sound_of ⟨(hl.checkout goal).congr rfl rfl rfl (fun h => by cases h),
      layers.settle (headTree_of_tip (headId_of_destination goal)) calm (.inl rfl)
        (within_of_swap swap)⟩
  | upToDate _ _ => exact hs
  | fastForward ready _ base swap =>
    obtain ⟨hl, layers⟩ := hs _ ready.repository
    exact sound_of (fastForward_sound hl layers ready.calm ready.clean ready.tip
      (hl.resolve_mem ready.names) (History.leads_of_mergeBase base).2 (within_of_swap swap))
  | join ready _ _ agreed result swap recorded =>
    obtain ⟨hl, layers⟩ := hs _ ready.repository
    have hid := not_mem_of_fresh fresh ready.repository rfl
    exact sound_of (join_sound hl layers ready.calm ready.clean ready.tip
      (hl.resolve_mem ready.names) agreed result (within_of_swap swap) hid recorded)
  | conflict ready _ _ result _ _ swap =>
    obtain ⟨hl, -⟩ := hs _ ready.repository
    exact sound_of (stopped_sound hl ready.tip (hl.resolve_mem ready.names) result
      (within_of_swap swap))
  | addRemote hr _ =>
    obtain ⟨hl, layers⟩ := hs _ hr
    exact sound_of ⟨hl.congr rfl rfl rfl hl.mergeHead, layers.congr rfl rfl rfl rfl rfl⟩
  | removeRemote hr _ =>
    obtain ⟨hl, layers⟩ := hs _ hr
    exact sound_of ⟨hl.congr rfl rfl rfl hl.mergeHead, layers.congr rfl rfl rfl rfl rfl⟩

/-- **Every reachable workspace is sound.** -/
theorem Reachable.sound {w : Workspace} (h : Reachable w) : Sound w := by
  induction h with
  | empty => exact Sound.empty
  | step op _ fresh ih => exact ih.step (op.transition _) fresh

/-! ### Two branches that have gone different ways -/

/-- The commit that both branches of `diverged` start from. -/
def forkId : CommitId := ⟨"dfd15ba2552e437ad106043bdfb46685c8d17c74"⟩

/-- The commit of the branch `main` of `diverged`. -/
def mainId : CommitId := ⟨"9db240e49796d55b23fdb4426484150962ec617a"⟩

/-- The commit of the branch `b` of `diverged`. -/
def sideId : CommitId := ⟨"0db00ad13467513db1d95234b320765977f71815"⟩

def divergedRepository : Repository where
  history :=
    [{ tree := .ofList [("a", "z\n")], parents := [forkId], author := ⟨"", ""⟩, seconds := 0
       seq := 2, message := "3", id := sideId },
      { tree := .ofList [("a", "y\n"), ("n", "n\n")], parents := [forkId], author := ⟨"", ""⟩
        seconds := 0, seq := 1, message := "2", id := mainId },
      { tree := .ofList [("a", "x\n")], parents := [], author := ⟨"", ""⟩, seconds := 0
        seq := 0, message := "1", id := forkId }]
  branches := .ofList [("b", sideId), ("main", mainId)]
  head := .branch "b"
  index := .ofList [("a", "z\n")]
  conflicts := ∅
  mergeHead := none
  remotes := ∅

/-- Both `main` and `b`, which is checked out, have changed the file `a` of their first commit. -/
def diverged : Workspace := ⟨.ofList [("a", "z\n")], some divergedRepository⟩

/-- What makes `diverged`. -/
def diverging : List Operation :=
  [.init "main", .write "a" "x\n", .add "a", .commit 0 "1" ⟨"", ""⟩, .createBranch "b",
    .write "a" "y\n", .write "n" "n\n", .add "a", .add "n", .commit 0 "2" ⟨"", ""⟩,
    .checkout "b", .write "a" "z\n", .add "a", .commit 0 "3" ⟨"", ""⟩]

lemma reachable_diverged : Reachable diverged := Reachable.run .empty diverging (by decide +kernel)

end Workspace

end GitTutor
