import GitTutor.Proofs.Workspace.MergeOutcome
import GitTutor.Proofs.Workspace.Resolution

/-!
Merges that are pending while the head moves on.

A merge that has stopped is pending until a commit ends it or a checkout leaves its commit. The
operations are followed by a `Trail`, which remembers the commit at which the last merge that
stopped was started. The head stays there, and does not lead to the other side, exactly as long as
no other merge moves it: such a merge does not look at the pending one, nor does it end it, so that
a commit on top of it has two parents although nothing is staged.
-/

namespace GitTutor

open History

namespace Workspace

open Repository

variable {w w' : Workspace} {r r' : Repository} {ours theirs : CommitId}

/-! ### Commits of an unchanged index -/

lemma commit_of_unchanged (hr : w.repository = some r) (calm : r.conflicts = ∅)
    (same : r.index = r.headTree) (idle : r.mergeHead = none) (now : Int64) (message : String)
    (author : Signature) : w.commit now message author = (.error .nothingToCommit, w) := by
  have hcalm : r.conflicts.isEmpty = true := Table.isEmpty_iff.2 calm
  simp [commit, onRepository, hr, hcalm, same, idle]

/-! ### Trails -/

/-- The commit that is checked out. -/
def tip (w : Workspace) : Option CommitId := w.repository.bind (·.headId)

/-- What is remembered of the last merge that stopped: the commit at which it was started, and
whether another merge has moved the head since. -/
structure Trail where
  start : Option CommitId
  moved : Bool
  deriving DecidableEq

/-- The trail before any merge has stopped. -/
def Trail.fresh : Trail := ⟨none, false⟩

/-- The trail after an operation on `w`, by its answer. -/
def Trail.next (t : Trail) (w : Workspace) : Except RepoError Answer → Trail
  | .error (.mergeConflict _ _ _) => ⟨w.tip, false⟩
  | .ok (.merged (.fastForward _)) => { t with moved := true }
  | .ok (.merged (.merged _)) => { t with moved := true }
  | _ => t

lemma Trail.next_of_plain (t : Trail) (w : Workspace) {e : RepoError}
    (plain : e.isMergeConflict = false) : t.next w (.error e) = t := by
  cases e with
  | mergeConflict _ _ _ => cases plain
  | _ => rfl

/-- A workspace that fresh operations make from the empty one, with the trail that they leave. -/
inductive Traced : Workspace → Trail → Prop
  | empty : Traced .empty .fresh
  | step (op : Operation) {w : Workspace} {t : Trail} (before : Traced w t) (fresh : op.Fresh w) :
      Traced (op.perform w).2 (t.next w (op.perform w).1)

lemma Traced.reachable {t : Trail} (h : Traced w t) : Reachable w := by
  induction h with
  | empty => exact .empty
  | step op _ fresh ih => exact ih.step op fresh

lemma reachable_iff_traced : Reachable w ↔ ∃ t, Traced w t := by
  refine ⟨fun h => ?_, fun ⟨_, h⟩ => h.reachable⟩
  induction h with
  | empty => exact ⟨_, .empty⟩
  | step op _ fresh ih =>
    obtain ⟨t, ht⟩ := ih
    exact ⟨_, ht.step op fresh⟩

/-- The workspace and the trail that operations leave, if they are all fresh. -/
def follow (w : Workspace) (t : Trail) : List Operation → Option (Workspace × Trail)
  | [] => some (w, t)
  | op :: ops =>
    if op.Fresh w then follow (op.perform w).2 (t.next w (op.perform w).1) ops else none

lemma Traced.follow {t t' : Trail} (h : Traced w t) (ops : List Operation)
    (hrun : w.follow t ops = some (w', t')) : Traced w' t' := by
  induction ops generalizing w t with
  | nil =>
    obtain ⟨rfl, rfl⟩ := Prod.mk.inj (Option.some.inj hrun)
    exact h
  | cons op ops ih =>
    rw [Workspace.follow] at hrun
    split at hrun
    · rename_i fresh
      exact ih (h.step op fresh) hrun
    · cases hrun

end Workspace

/-! ### Where the head stands -/

namespace Repository

open Workspace

variable {r r' : Repository} {t : Trail} {ours theirs : CommitId}

/-- The commit that is checked out is `start`, and it does not lead to `theirs`. -/
def AtStart (r : Repository) (start : Option CommitId) (theirs : CommitId) : Prop :=
  ∃ id, r.headId = some id ∧ start = some id ∧ ¬Leads r.history id theirs

/-- The commit that is checked out has `start` among its ancestors. -/
def Beyond (r : Repository) (start : Option CommitId) : Prop :=
  ∃ id old, r.headId = some id ∧ start = some old ∧ Relation.TransGen (Parent r.history) id old

/-- Where the head stands while a merge is pending. -/
structure Tied (r : Repository) (t : Trail) : Prop where
  still : ∀ {theirs}, r.mergeHead = some theirs → t.moved = false → r.AtStart t.start theirs
  moved : ∀ {theirs}, r.mergeHead = some theirs → t.moved = true → r.Beyond t.start

lemma Beyond.not_atStart {start : Option CommitId} (h : r.Beyond start) (hg : r.history.Grown)
    (theirs : CommitId) : ¬r.AtStart start theirs := by
  rintro ⟨id, hid, hs, -⟩
  obtain ⟨id', old, hid', hold, hbeyond⟩ := h
  obtain rfl := Option.some.inj (hid'.symm.trans hid)
  obtain rfl := Option.some.inj (hold.symm.trans hs)
  exact hg.acyclic _ hbeyond

namespace Tied

lemma of_idle (t : Trail) (idle : r.mergeHead = none) : r.Tied t where
  still h := by
    rw [idle] at h
    cases h
  moved h := by
    rw [idle] at h
    cases h

lemma congr (h : r.Tied t) (history : r'.history = r.history) (headId : r'.headId = r.headId)
    (mergeHead : r'.mergeHead = r.mergeHead) : r'.Tied t where
  still hm ht := by
    rw [AtStart, history, headId]
    exact h.still (mergeHead ▸ hm) ht
  moved hm ht := by
    rw [Beyond, history, headId]
    exact h.moved (mergeHead ▸ hm) ht

lemma move (h : r.Tied t) (tip : r.headId = some ours) (history : r.history ⊆ r'.history)
    {id : CommitId} (head : r'.headId = some id)
    (beyond : Relation.TransGen (Parent r'.history) id ours)
    (mergeHead : r'.mergeHead = r.mergeHead) : r'.Tied { t with moved := true } where
  still _ ht := by cases ht
  moved hm _ := by
    rw [mergeHead] at hm
    cases ht : t.moved with
    | false =>
      obtain ⟨id', hid, hs, -⟩ := h.still hm ht
      obtain rfl := Option.some.inj (hid.symm.trans tip)
      exact ⟨id, id', head, hs, beyond⟩
    | true =>
      obtain ⟨id', old, hid, hs, hold⟩ := h.moved hm ht
      obtain rfl := Option.some.inj (hid.symm.trans tip)
      exact ⟨id, old, head, hs,
        beyond.trans (Relation.TransGen.mono (fun _ _ => Parent.mono history) _ _ hold)⟩

lemma record {now : Int64} {tree : Tree} {parents : List CommitId} {message : String}
    {author : Signature} {id : CommitId}
    (recorded : r.record now tree parents message author = (id, r')) (hg : r.history.Grown)
    (fresh : id ∉ r.history.ids) (h : r.Tied t) (tip : r.headId = some ours)
    (onTop : ours ∈ parents) : r'.Tied { t with moved := true } := by
  obtain ⟨c, rfl, hs, rfl⟩ := record_eq hg recorded fresh
  have hparents : c.parents = parents := congrArg (·.parents) hs
  refine h.move tip ?_ headId_advance ?_ mergeHead_advance
  · rw [history_advance]
    exact List.subset_cons_self _ _
  · rw [history_advance]
    exact .single ⟨c, List.mem_cons_self, rfl, hparents ▸ onTop⟩

end Tied

end Repository

namespace Workspace

open Repository

variable {w w' : Workspace} {r r' : Repository} {t : Trail} {ours theirs : CommitId}

lemma Transition.tied {op : Operation} {answer : Except RepoError Answer}
    (ht : Transition w op answer w') (hs : Sound w)
    (fresh : ∀ id ∈ Answer.newId answer, id ∉ w.ids)
    (tied : ∀ r, w.repository = some r → r.Tied t) (hr' : w'.repository = some r') :
    r'.Tied (t.next w answer) := by
  cases ht with
  | refused plain =>
    rw [t.next_of_plain w plain]
    exact tied r' hr'
  | write _ _ => exact tied r' hr'
  | clear => cases hr'
  | initialized _ => exact tied r' hr'
  | start _ _ => exact Option.some.inj hr' ▸ .of_idle t rfl
  | stage hr _ => exact Option.some.inj hr' ▸ (tied _ hr).congr rfl rfl rfl
  | unstage hr _ _ => exact Option.some.inj hr' ▸ (tied _ hr).congr rfl rfl rfl
  | commit hr _ _ recorded =>
    exact Option.some.inj hr' ▸ .of_idle t (mergeHead_record recorded)
  | branch hr _ _ tip =>
    exact Option.some.inj hr' ▸ (tied _ hr).congr rfl ((headId_insert_tip tip).trans tip.symm) rfl
  | stay _ _ _ => exact tied r' hr'
  | switch hr _ goal same =>
    exact Option.some.inj hr' ▸
      (tied _ hr).congr rfl ((headId_of_destination goal).trans same.symm) rfl
  | move _ _ _ _ _ _ => exact Option.some.inj hr' ▸ .of_idle t rfl
  | upToDate _ _ => exact tied r' hr'
  | fastForward ready other base _ =>
    -- The other commit leads to the current one and is not the same.
    have beyond := (Relation.reflTransGen_iff_eq_or_transGen.1 (leads_of_mergeBase base).2)
      |>.resolve_left other
    obtain rfl := Option.some.inj hr'
    refine (tied _ ready.repository).move ready.tip ?_ headId_advance ?_ mergeHead_advance
    · rw [history_advance]
      exact List.Subset.refl _
    · rwa [history_advance]
  | join ready _ _ _ _ _ recorded =>
    have hid := not_mem_of_fresh fresh ready.repository rfl
    exact Option.some.inj hr' ▸ .record recorded (hs _ ready.repository).1.grown hid
      ((tied _ ready.repository).congr rfl rfl rfl) ready.tip List.mem_cons_self
  | conflict ready behind _ _ _ _ _ =>
    have hl := (hs _ ready.repository).1
    obtain rfl := Option.some.inj hr'
    refine ⟨fun hm _ => ⟨_, ready.tip, ?_, ?_⟩, fun _ h => by cases h⟩
    · rw [Trail.next, Workspace.tip, ready.repository]
      exact ready.tip
    · obtain rfl := Option.some.inj hm
      exact mt (hl.grown.mergeBase_eq_right_iff (hl.resolve_mem ready.names)).2 behind
  | addRemote hr _ => exact Option.some.inj hr' ▸ (tied _ hr).congr rfl rfl rfl
  | removeRemote hr _ => exact Option.some.inj hr' ▸ (tied _ hr).congr rfl rfl rfl

lemma Traced.tied (h : Traced w t) (hr : w.repository = some r) : r.Tied t := by
  induction h generalizing r with
  | empty => cases hr
  | step op before fresh ih =>
    exact (op.transition _).tied before.reachable.sound fresh (fun _ => ih) hr

/-! ### Merges over a pending merge -/

lemma Transition.mergeHead_eq {now : Int64} {reference : String} {author : Signature}
    {result : MergeResult}
    (ht : Transition w (.merge now reference author) (.ok (.merged result)) w')
    (hr : w.repository = some r) (hr' : w'.repository = some r') : r'.mergeHead = r.mergeHead := by
  cases ht with
  | upToDate _ _ => rw [Option.some.inj (hr'.symm.trans hr)]
  | fastForward ready _ _ _ =>
    obtain rfl := Option.some.inj (hr.symm.trans ready.repository)
    obtain rfl := Option.some.inj hr'
    exact mergeHead_advance
  | join ready _ _ _ _ _ recorded =>
    obtain rfl := Option.some.inj (hr.symm.trans ready.repository)
    obtain rfl := Option.some.inj hr'
    have same := mergeHead_record recorded
    exact same

/-- What a commit finds in `w'` right after a merge has succeeded in a repository `r`: nothing to
do if no merge was pending, and else the end of the pending merge on top of the other one. -/
structure CarriedOver (r : Repository) (w' : Workspace) (r' : Repository) (tip : CommitId) :
    Prop where
  repository : w'.repository = some r'
  head : r'.headId = some tip
  mergeHead : r'.mergeHead = r.mergeHead
  idle : r.mergeHead = none → ∀ now message author,
    w'.commit now message author = (.error .nothingToCommit, w')
  pending : ∀ {theirs}, r.mergeHead = some theirs → ∀ now message author, ∃ id r'',
    w'.commit now message author = (.ok id, ⟨w'.files, some r''⟩) ∧
      r'.Concluded r'' tip theirs id now message author

lemma ready_of_merge {now : Int64} {reference : String} {author : Signature} {result : MergeResult}
    (h : w.merge now reference author = (.ok result, w')) :
    ∃ r ours theirs, Ready w r reference ours theirs := by
  have ht := (Operation.merge now reference author).transition w
  rw [Operation.perform, h, Answer.wrap] at ht
  cases ht with
  | upToDate ready _ => exact ⟨_, _, _, ready⟩
  | fastForward ready _ _ _ => exact ⟨_, _, _, ready⟩
  | join ready _ _ _ _ _ _ => exact ⟨_, _, _, ready⟩

lemma carriedOver_of_merge (hw : Reachable w) (hr : w.repository = some r) {now : Int64}
    {reference : String} {author : Signature} {result : MergeResult}
    (fresh : (Operation.merge now reference author).Fresh w)
    (h : w.merge now reference author = (.ok result, w')) :
    ∃ r' tip, CarriedOver r w' r' tip := by
  obtain ⟨r₀, ours, theirs, ready⟩ := ready_of_merge h
  obtain rfl := Option.some.inj (hr.symm.trans ready.repository)
  have hp : (Operation.merge now reference author).perform w = (.ok (.merged result), w') := by
    rw [Operation.perform, h, Answer.wrap]
  obtain ⟨r', tip, ha, -⟩ := absorbed_of_merge hw ready fresh h
  have ht := (Operation.merge now reference author).transition w
  have hw' := hw.step _ fresh
  rw [hp] at ht hw'
  have same := ht.mergeHead_eq hr ha.repository
  have unchanged := (hw'.sound r' ha.repository).2.index_eq_headTree ha.calm ha.clean
  refine ⟨r', tip, ha.repository, ha.head, same, fun idle => ?_, fun pending => ?_⟩
  · exact commit_of_unchanged ha.repository ha.calm unchanged (same.trans idle)
  · exact commit_of_pending ha.repository ha.calm ha.head (same.trans pending)

/-- **A pending merge belongs to the head exactly until another merge moves it.** In every reachable
workspace the head is at the commit at which the pending merge was started, and does not lead to
its other side, exactly if no merge has moved the head since. And whether a commit right after a
merge is refused or ends the pending merge depends only on whether one was pending before. -/
theorem pending_atStart_iff (hw : Traced w t) (hr : w.repository = some r) :
    (∀ theirs, r.mergeHead = some theirs → (r.AtStart t.start theirs ↔ t.moved = false)) ∧
      ∀ now reference author result w', (Operation.merge now reference author).Fresh w →
        w.merge now reference author = (.ok result, w') → ∃ r' tip, CarriedOver r w' r' tip := by
  refine ⟨fun theirs pending => ⟨fun h => ?_, (hw.tied hr).still pending⟩,
    fun now reference author result w' fresh h => carriedOver_of_merge hw.reachable hr fresh h⟩
  by_contra hmoved
  rw [Bool.not_eq_false] at hmoved
  exact ((hw.tied hr).moved pending hmoved).not_atStart (hw.reachable.sound r hr).1.grown theirs h

/-! ### A merge that is overtaken -/

/-- The commit of the branch `c` of `overtaken`, on top of that of `main`. -/
def aheadId : CommitId := ⟨"132f1f65de3fbb3b298317edbcde7d816b5e00c5"⟩

/-- The merge of `b` into `main` has stopped, and its conflict is resolved with what `main` has. -/
def resolvedRepository : Repository :=
  { divergedRepository with
    history :=
      { tree := .ofList [("a", "y\n"), ("c", "c\n"), ("n", "n\n")], parents := [mainId]
        author := ⟨"", ""⟩, seconds := 0, seq := 3, message := "4", id := aheadId } ::
        divergedRepository.history
    branches := .ofList [("b", sideId), ("c", aheadId), ("main", mainId)]
    head := .branch "main"
    index := .ofList [("a", "y\n"), ("n", "n\n")]
    mergeHead := some sideId }

def resolved : Workspace := ⟨.ofList [("a", "y\n"), ("n", "n\n")], some resolvedRepository⟩

lemma traced_resolved : Traced resolved ⟨some mainId, false⟩ :=
  Traced.follow .empty
    (diverging ++ [.checkout "main", .createBranch "c", .checkout "c", .write "c" "c\n", .add "c",
      .commit 0 "4" ⟨"", ""⟩, .checkout "main", .merge 0 "b" ⟨"", ""⟩, .write "a" "y\n", .add "a"])
    (by decide +kernel)

/-- Then `main` is moved on to `c`. -/
def overtakenRepository : Repository :=
  { resolvedRepository with
    branches := .ofList [("b", sideId), ("c", aheadId), ("main", aheadId)]
    index := .ofList [("a", "y\n"), ("c", "c\n"), ("n", "n\n")] }

def overtaken : Workspace :=
  ⟨.ofList [("a", "y\n"), ("c", "c\n"), ("n", "n\n")], some overtakenRepository⟩

lemma merge_resolved :
    resolved.merge 0 "c" ⟨"", ""⟩ = (.ok (.fastForward aheadId), overtaken) := by
  decide +kernel

lemma traced_overtaken : Traced overtaken ⟨some mainId, true⟩ :=
  traced_resolved.follow [.merge 0 "c" ⟨"", ""⟩] (by decide +kernel)

/-- The commit on top of `c` ends the merge of `b`. -/
theorem pending_atStart_iff_overtaken :
    Traced overtaken ⟨some mainId, true⟩ ∧ overtaken.repository = some overtakenRepository ∧
      (overtakenRepository.AtStart (some mainId) sideId ↔ true = false) ∧
      Traced resolved ⟨some mainId, false⟩ ∧ resolved.repository = some resolvedRepository ∧
      (resolvedRepository.AtStart (some mainId) sideId ↔ false = false) ∧
      (Operation.merge 0 "c" ⟨"", ""⟩).Fresh resolved ∧
      resolved.merge 0 "c" ⟨"", ""⟩ = (.ok (.fastForward aheadId), overtaken) ∧
      ∃ r' tip, CarriedOver resolvedRepository overtaken r' tip := by
  have fresh : (Operation.merge 0 "c" ⟨"", ""⟩).Fresh resolved := by decide +kernel
  exact ⟨traced_overtaken, rfl, (pending_atStart_iff traced_overtaken rfl).1 sideId rfl,
    traced_resolved, rfl, (pending_atStart_iff traced_resolved rfl).1 sideId rfl, fresh,
    merge_resolved, (pending_atStart_iff traced_resolved rfl).2 _ _ _ _ _ fresh merge_resolved⟩

/-- In a reachable workspace a merge is pending that was started elsewhere, and a commit of an
unchanged index records two parents right after the head has been moved on. -/
theorem not_pending_atStart :
    (¬∀ w t r theirs, Traced w t → w.repository = some r → r.mergeHead = some theirs →
      r.AtStart t.start theirs) ∧
    ¬∀ w now reference author result w' now' message author', Reachable w →
      (Operation.merge now reference author).Fresh w →
      w.merge now reference author = (.ok result, w') → result ≠ .upToDate →
      w'.commit now' message author' = (.error .nothingToCommit, w') := by
  constructor
  · intro h
    obtain ⟨id, hid, hs, -⟩ := h overtaken _ overtakenRepository sideId traced_overtaken rfl rfl
    obtain rfl := Option.some.inj hs
    revert hid
    decide +kernel
  · intro h
    have refused := h resolved 0 "c" ⟨"", ""⟩ _ overtaken 0 "5" ⟨"", ""⟩ traced_resolved.reachable
      (by decide +kernel) merge_resolved (by simp)
    revert refused
    decide +kernel

end Workspace

end GitTutor
