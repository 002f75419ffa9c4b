import GitTutor.Proofs.Workspace.MergeOutcome

/-!
What a checkout makes of the files, and the way back.

A checkout of another commit swaps the tree of the commit that was checked out for its own: its
files appear, files that only the old commit has go, and files that neither has stay as they are
(`Materialized`). If nothing has changed and no untracked file lies at a path of the other commit,
the same swap the other way round gives back every file (`swapTrees_back`), and with it the whole
workspace.
-/

namespace GitTutor

/-- A swap is undone by the swap the other way round, if the old tree was there unchanged and no
file lay where only the new one has one. -/
lemma swapTrees_back {files old new files' : Tree} (swap : swapTrees files old new = .ok files')
    (unchanged : ∀ path content, old.get? path = some content → files.get? path = some content)
    (clear : ∀ path, new.contains path = true → old.contains path = false →
      files.get? path = none) : swapTrees files' new old = .ok files := by
  rw [swapTrees_eq_ok_iff]
  constructor
  · rw [inTheWay_eq_nil_iff]
    intro path content found ho hf hn
    -- The swap has taken the file away, as only the old tree has it.
    rw [get?_of_swap swap, Table.contains_eq_false_iff.1 hn, Table.contains_of_get? ho] at hf
    cases hf
  · refine Table.ext fun path => ?_
    rw [Table.get?_overlay, Table.get?_without]
    cases ho : old.get? path with
    | some content => exact (unchanged path content ho).symm
    | none =>
      have lacks := Table.contains_eq_false_iff.2 ho
      cases hn : new.contains path with
      | true => exact (clear path hn lacks).symm
      | false =>
        rw [get?_of_swap swap, Table.contains_eq_false_iff.1 hn, lacks]
        rfl

namespace Repository

variable {r : Repository} {files : Tree} {reference : String} {head : Head} {id target : CommitId}

lemma Linked.resolve_of_destination (hl : Linked r)
    (goal : r.destination reference = .ok (.commit head id)) : r.resolve reference = .ok id := by
  rcases destination_cases goal with ⟨-, branch⟩ | ⟨-, names⟩
  · exact hl.resolve_branch branch
  · exact names

lemma Linked.exists_destination (hl : Linked r) (names : r.resolve reference = .ok id) :
    ∃ head, r.destination reference = .ok (.commit head id) := by
  unfold destination
  cases branch : r.branches.get? reference with
  | some id' =>
    obtain rfl := Except.ok.inj ((hl.resolve_branch branch).symm.trans names)
    exact ⟨_, rfl⟩
  | none =>
    by_cases current : r.head = .branch reference
    · -- A branch without a commit names none, be it as `HEAD` or by its name.
      have unborn : r.headId = none := by
        rw [headId, current]
        exact branch
      rw [resolve, unborn, branch] at names
      split at names <;> cases names
    · simp only [if_neg current, names]
      exact ⟨_, rfl⟩

lemma Layered.file_of_headTree (layers : Layered r files) (calm : r.conflicts = ∅)
    (clean : r.trackedChanges files = []) {path content : String}
    (h : r.headTree.get? path = some content) : files.get? path = some content := by
  rw [← layers.index_eq_headTree calm clean] at h
  exact (eq_of_clean calm clean h).2

lemma get?_status_of_untracked (calm : r.conflicts = ∅) (clean : r.trackedChanges files = [])
    {path content : String} (lacks : r.headTree.contains path = false)
    (file : files.get? path = some content) : (r.status files).get? path = some .untracked := by
  have hhead := Table.contains_eq_false_iff.1 lacks
  have hindex := (index_within_headTree calm clean).get?_eq_none hhead
  rw [get?_status calm, hhead, hindex, file]
  rfl

end Repository

namespace Workspace

open Repository

variable {w w' : Workspace} {r r' : Repository} {current reference : String} {head : Head}
  {target : CommitId}

/-! ### The two ways to succeed -/

lemma checkout_of_same (hr : w.repository = some r) (calm : r.conflicts = ∅)
    (goal : r.destination reference = .ok (.commit head target)) (same : r.headId = some target) :
    w.checkout reference = (.ok (), ⟨w.files, some { r with head }⟩) := by
  have hcalm : r.conflicts.isEmpty = true := Table.isEmpty_iff.2 calm
  simp [checkout, onRepository, hr, hcalm, goal, same]

lemma checkout_of_other (hr : w.repository = some r) (calm : r.conflicts = ∅)
    (goal : r.destination reference = .ok (.commit head target)) (other : r.headId ≠ some target)
    (clean : r.trackedChanges w.files = []) {files : Tree}
    (swap : swapTrees w.files r.headTree (r.treeOf target) = .ok files) :
    w.checkout reference =
      (.ok (), ⟨files, some { r with head, index := r.treeOf target, mergeHead := none }⟩) := by
  have hcalm : r.conflicts.isEmpty = true := Table.isEmpty_iff.2 calm
  simp [checkout, onRepository, hr, hcalm, goal, other, clean, swap]

/-! ### What is in the directory then -/

/-- The tree of `target` has taken the place of the one that was checked out in `r`. -/
structure Materialized (w w' : Workspace) (r r' : Repository) (target : CommitId) : Prop where
  /-- The index is the tree of the commit, and history, branches and remotes are the same. -/
  repository : r' = { r with head := r'.head, index := r.treeOf target, mergeHead := none }
  present : ∀ path, (r.treeOf target).contains path = true →
    w'.files.get? path = (r.treeOf target).get? path
  gone : ∀ path, (r.treeOf target).contains path = false → r.headTree.contains path = true →
    w'.files.get? path = none
  kept : ∀ path, (r.treeOf target).contains path = false → r.headTree.contains path = false →
    w'.files.get? path = w.files.get? path

/-- What a checkout of `reference` makes of `w`. -/
structure CheckedOut (w w' : Workspace) (reference : String) (r r' : Repository) : Prop where
  before : w.repository = some r
  after : w'.repository = some r'
  reached : ∀ target, r.resolve reference = .ok target → r'.headId = some target
  moved : r'.headId ≠ r.headId →
    ∃ target, r.resolve reference = .ok target ∧ Materialized w w' r r' target
  stayed : r'.headId = r.headId → w' = ⟨w.files, some { r with head := r'.head }⟩

lemma materialized_of_swap {files : Tree}
    (swap : swapTrees w.files r.headTree (r.treeOf target) = .ok files) (head : Head) :
    Materialized w ⟨files, some { r with head, index := r.treeOf target, mergeHead := none }⟩ r
      { r with head, index := r.treeOf target, mergeHead := none } target where
  repository := rfl
  present path has := by
    obtain ⟨content, hcontent⟩ := Table.contains_iff.1 has
    rw [get?_of_swap swap, hcontent, Option.some_or]
  gone path lacks had := by
    rw [get?_of_swap swap, Table.contains_eq_false_iff.1 lacks, had]
    rfl
  kept path lacks lacked := by
    rw [get?_of_swap swap, Table.contains_eq_false_iff.1 lacks, lacked]
    rfl

lemma checkedOut_of_checkout (hs : Sound w) (done : w.checkout reference = (.ok (), w')) :
    ∃ r r', CheckedOut w w' reference r r' := by
  have ht := (Operation.checkout reference).transition w
  rw [Operation.perform, done, Answer.wrap] at ht
  cases ht with
  | @stay r _ hr _ goal =>
    refine ⟨r, r, hr, hr, fun target names => ?_, fun h => absurd rfl h, fun _ => ?_⟩
    · obtain ⟨head, goal'⟩ := (hs r hr).1.exists_destination names
      cases goal.symm.trans goal'
    · rw [← hr]
  | @switch r _ head id hr _ goal same =>
    have names := (hs r hr).1.resolve_of_destination goal
    have reached : { r with head }.headId = some id := headId_of_destination goal
    refine ⟨r, _, hr, rfl, fun target names' => ?_, fun h => ?_, fun _ => rfl⟩
    · obtain rfl := Except.ok.inj (names.symm.trans names')
      exact reached
    · exact absurd (reached.trans same.symm) h
  | @move r _ head id files hr _ goal other _ swap =>
    have names := (hs r hr).1.resolve_of_destination goal
    have reached : { r with head }.headId = some id := headId_of_destination goal
    refine ⟨r, _, hr, rfl, fun target names' => ?_, fun _ => ?_, fun h => ?_⟩
    · obtain rfl := Except.ok.inj (names.symm.trans names')
      exact reached
    · exact ⟨id, names, materialized_of_swap swap head⟩
    · exact absurd (h.symm.trans reached) other

/-! ### There and back -/

/-- On the branch `current` nothing has changed and no merge is pending, and no untracked file lies
at a path of the commit `target`. -/
structure Reversible (w : Workspace) (r : Repository) (current reference : String)
    (target : CommitId) : Prop where
  repository : w.repository = some r
  branch : r.head = .branch current
  calm : r.conflicts = ∅
  idle : r.mergeHead = none
  clean : r.trackedChanges w.files = []
  names : r.resolve reference = .ok target
  free : ∀ path, (r.treeOf target).contains path = true →
    (r.status w.files).get? path ≠ some .untracked

lemma Reversible.clear (h : Reversible w r current reference target) {path : String}
    (has : (r.treeOf target).contains path = true) (lacks : r.headTree.contains path = false) :
    w.files.get? path = none := by
  by_contra present
  obtain ⟨content, file⟩ := Option.ne_none_iff_exists'.1 present
  exact h.free path has (get?_status_of_untracked h.calm h.clean lacks file)

lemma Reversible.exists_swap (h : Reversible w r current reference target) :
    ∃ files, swapTrees w.files r.headTree (r.treeOf target) = .ok files := by
  refine ⟨_, swapTrees_eq_ok_iff.2 ⟨inTheWay_eq_nil_iff.2 ?_, rfl⟩⟩
  intro path content found has file lacks
  rw [h.clear (Table.contains_of_get? has) lacks] at file
  cases file

lemma Reversible.undone_of_other (h : Reversible w r current reference target) (hl : Linked r)
    (layers : Layered r w.files) {ours : CommitId} (tip : r.branches.get? current = some ours)
    (other : ours ≠ target) :
    ∃ w', w.checkout reference = (.ok (), w') ∧ w'.checkout current = (.ok (), w) := by
  have htip : r.headId = some ours := by
    rw [headId, h.branch]
    exact tip
  obtain ⟨head, goal⟩ := hl.exists_destination h.names
  obtain ⟨files, swap⟩ := h.exists_swap
  refine ⟨_, checkout_of_other h.repository h.calm goal (by simp [htip, other]) h.clean swap, ?_⟩
  set r' : Repository := { r with head, index := r.treeOf target, mergeHead := none } with hr'
  have calm' : r'.conflicts = ∅ := h.calm
  have htip' : r'.headId = some target := headId_of_destination goal
  have htree : r'.headTree = r.treeOf target := headTree_of_tip htip'
  have goal' : r'.destination current = .ok (.commit (.branch current) ours) := by
    simp [destination, hr', tip]
  have clean' : r'.trackedChanges files = [] := clean_of_swap calm' rfl htree swap
  have back : swapTrees files r'.headTree (r'.treeOf ours) = .ok w.files := by
    rw [htree, show r'.treeOf ours = r.headTree from (headTree_of_tip htip).symm]
    exact swapTrees_back swap (fun _ _ => layers.file_of_headTree h.calm h.clean)
      fun _ => h.clear
  have index : r'.treeOf ours = r.index :=
    (headTree_of_tip htip).symm.trans (layers.index_eq_headTree h.calm h.clean).symm
  rw [checkout_of_other rfl calm' goal' (by simp [htip', Ne.symm other]) clean' back, index, hr',
    ← h.branch, ← h.idle, ← h.repository]

lemma Reversible.undone (h : Reversible w r current reference target) (hl : Linked r)
    (layers : Layered r w.files) :
    ∃ w', w.checkout reference = (.ok (), w') ∧ w'.checkout current = (.ok (), w) := by
  -- There is a commit, so that the branch stands at one.
  have born : r.headId ≠ none := fun unborn => by
    have known := hl.resolve_mem h.names
    rw [hl.born unborn] at known
    exact List.not_mem_nil known
  obtain ⟨ours, htip⟩ := Option.ne_none_iff_exists'.1 born
  have tip : r.branches.get? current = some ours := by rwa [headId, h.branch] at htip
  by_cases same : ours = target
  · subst same
    obtain ⟨head, goal⟩ := hl.exists_destination h.names
    refine ⟨_, checkout_of_same h.repository h.calm goal htip, ?_⟩
    set r' : Repository := { r with head } with hr'
    have calm' : r'.conflicts = ∅ := h.calm
    have htip' : r'.headId = some ours := headId_of_destination goal
    have goal' : r'.destination current = .ok (.commit (.branch current) ours) := by
      simp [destination, hr', tip]
    rw [checkout_of_same rfl calm' goal' htip', hr', ← h.branch, ← h.repository]
  · exact h.undone_of_other hl layers tip same

/-- **A checkout puts exactly the commit in place, and can be undone.** Where it moves to another
commit, the index is the tree of that commit, and so are the files, save those that neither commit
has; where it stays, only the head changes. From a branch without changes, and with no untracked
file at a path of the other commit, the way there and back succeeds and leaves all as it was. -/
theorem checkout_exact_and_undone (hw : Reachable w) :
    (∀ reference w', w.checkout reference = (.ok (), w') →
      ∃ r r', CheckedOut w w' reference r r') ∧
      ∀ r current reference target, Reversible w r current reference target →
        ∃ w', w.checkout reference = (.ok (), w') ∧ w'.checkout current = (.ok (), w) := by
  refine ⟨fun reference w' done => checkedOut_of_checkout hw.sound done, ?_⟩
  intro r current reference target h
  obtain ⟨hl, layers⟩ := hw.sound r h.repository
  exact h.undone hl layers

/-- The other branch of `diverged`, checked out. -/
def notedRepository : Repository :=
  { divergedRepository with
    head := .branch "main", index := .ofList [("a", "y\n"), ("n", "n\n")] }

/-- A file `u` that no commit has lies beside those of the branch. -/
def noted : Workspace :=
  ⟨.ofList [("a", "y\n"), ("n", "n\n"), ("u", "u\n")], some notedRepository⟩

/-- The file `n` goes and comes back, and the file `u` stays. -/
theorem checkout_exact_and_undone_noted :
    Reachable noted ∧ Reversible noted notedRepository "main" "b" sideId ∧
      ∃ w', noted.checkout "b" = (.ok (), w') ∧ w'.checkout "main" = (.ok (), noted) ∧
        w'.files = .ofList [("a", "z\n"), ("u", "u\n")] ∧
        ∃ r r', CheckedOut noted w' "b" r r' := by
  have reachable : Reachable noted :=
    reachable_diverged.run [.checkout "main", .write "u" "u\n"] (by decide +kernel)
  have free : ∀ path ∈ (notedRepository.treeOf sideId).names,
      (notedRepository.status noted.files).get? path ≠ some .untracked := by
    decide +kernel
  have reversible : Reversible noted notedRepository "main" "b" sideId :=
    ⟨rfl, rfl, rfl, rfl, by decide +kernel, by decide +kernel,
      fun path has => free path (Table.mem_names_iff.2 has)⟩
  obtain ⟨checkedOut, undone⟩ := checkout_exact_and_undone reachable
  obtain ⟨w', done, back⟩ := undone notedRepository "main" "b" sideId reversible
  have files : (noted.checkout "b").2.files = .ofList [("a", "z\n"), ("u", "u\n")] := by
    decide +kernel
  rw [done] at files
  exact ⟨reachable, reversible, w', done, back, files, checkedOut "b" w' done⟩

end Workspace

end GitTutor
