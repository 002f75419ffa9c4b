import GitTutor.Proofs.Workspace.Consistency

/-!
Histories only grow.

Short of clearing the workspace, no operation takes a commit away or changes one, and a branch that
moves goes on to a commit that leads back to where it was (`Repository.GrowsInto`). A commit is put
on top of the one that is checked out, a merge commit on top of both sides, and a branch is moved
forward only to a commit over which it is itself the merge base.
-/

namespace GitTutor

open History

namespace Repository

/-- All commits of `r` are in `r'`, and each branch of `r` is there, moved forward if at all. -/
structure GrowsInto (r r' : Repository) : Prop where
  commits : r.history ⊆ r'.history
  branches : ∀ {name old}, r.branches.get? name = some old →
    ∃ new, r'.branches.get? name = some new ∧ Leads r'.history new old

variable {r r' : Repository}

namespace GrowsInto

lemma of_eq (history : r'.history = r.history) (branches : r'.branches = r.branches) :
    r.GrowsInto r' where
  commits := history ▸ List.Subset.refl _
  branches h := ⟨_, branches ▸ h, Leads.refl _ _⟩

lemma refl (r : Repository) : r.GrowsInto r := of_eq rfl rfl

lemma trans {r'' : Repository} (h : r.GrowsInto r') (h' : r'.GrowsInto r'') :
    r.GrowsInto r'' where
  commits := List.Subset.trans h.commits h'.commits
  branches hb := by
    obtain ⟨mid, hmid, hl⟩ := h.branches hb
    obtain ⟨new, hnew, hl'⟩ := h'.branches hmid
    exact ⟨new, hnew, hl'.trans (hl.mono h'.commits)⟩

lemma congr_left {r₁ : Repository} (h : r₁.GrowsInto r') (history : r₁.history = r.history)
    (branches : r₁.branches = r.branches) : r.GrowsInto r' :=
  .trans (.of_eq history branches) h

lemma createBranch {name : String} (id : CommitId) (new : r.branches.contains name = false) :
    r.GrowsInto { r with branches := r.branches.insert name id } where
  commits := List.Subset.refl _
  branches {other old} h := by
    refine ⟨old, ?_, Leads.refl _ _⟩
    have hne : name ≠ other := by
      rintro rfl
      rw [Table.contains_eq_false_iff.1 new] at h
      cases h
    rwa [Table.get?_insert, if_neg hne]

lemma advance {id : CommitId} (leads : ∀ {tip}, r.headId = some tip → Leads r.history id tip) :
    r.GrowsInto (r.advance id) where
  commits := history_advance ▸ List.Subset.refl _
  branches {name old} h := by
    rw [get?_branches_advance, history_advance]
    split
    · rename_i current
      refine ⟨id, rfl, leads ?_⟩
      rwa [headId, current]
    · exact ⟨old, h, Leads.refl _ _⟩

lemma record {now : Int64} {tree : Tree} {parents : List CommitId} {message : String}
    {author : Signature} {id : CommitId}
    (recorded : r.record now tree parents message author = (id, r')) (hg : r.history.Grown)
    (fresh : id ∉ r.history.ids) (onTop : ∀ {tip}, r.headId = some tip → tip ∈ parents) :
    r.GrowsInto r' := by
  obtain ⟨c, rfl, hs, rfl⟩ := record_eq hg recorded fresh
  have hparents : c.parents = parents := congrArg (·.parents) hs
  have added : r.GrowsInto { r with history := c :: r.history } :=
    ⟨List.subset_cons_self _ _, fun h => ⟨_, h, Leads.refl _ _⟩⟩
  exact added.trans (advance fun tip => Leads.parent_of_front (hparents ▸ onTop tip))

end GrowsInto

end Repository

namespace Workspace

open Repository

variable {w w' : Workspace} {r r' : Repository}

lemma Transition.growsInto {op : Operation} {answer : Except RepoError Answer}
    (ht : Transition w op answer w') (hs : Sound w)
    (fresh : ∀ id ∈ Answer.newId answer, id ∉ w.ids) (uncleared : op ≠ .clear)
    (hr : w.repository = some r) : ∃ r', w'.repository = some r' ∧ r.GrowsInto r' := by
  -- The repository of a step is the one before it.
  have same : ∀ {r₀ : Repository}, w.repository = some r₀ → r₀ = r :=
    fun h => Option.some.inj (h.symm.trans hr)
  have fresh' : ∀ id ∈ Answer.newId answer, id ∉ r.history.ids := by
    rwa [ids, hr] at fresh
  cases ht with
  | refused _ => exact ⟨r, hr, .refl r⟩
  | write path content => exact ⟨r, hr, .refl r⟩
  | clear => exact absurd rfl uncleared
  | initialized _ => exact ⟨r, hr, .refl r⟩
  | start hnone _ =>
    rw [hr] at hnone
    cases hnone
  | stage hr' _ => exact ⟨_, rfl, same hr' ▸ .of_eq rfl rfl⟩
  | unstage hr' _ _ => exact ⟨_, rfl, same hr' ▸ .of_eq rfl rfl⟩
  | commit hr' _ _ recorded =>
    obtain rfl := same hr'
    refine ⟨_, rfl, .congr_left (.record recorded (hs _ hr).1.grown (fresh' _ rfl) ?_) rfl rfl⟩
    exact fun tip => List.mem_append_left _ (Option.mem_toList.2 tip)
  | branch hr' _ new _ => exact ⟨_, rfl, same hr' ▸ .createBranch _ (same hr' ▸ new)⟩
  | stay _ _ _ => exact ⟨r, hr, .refl r⟩
  | switch hr' _ _ _ => exact ⟨_, rfl, same hr' ▸ .of_eq rfl rfl⟩
  | move hr' _ _ _ _ _ => exact ⟨_, rfl, same hr' ▸ .of_eq rfl rfl⟩
  | upToDate _ _ => exact ⟨r, hr, .refl r⟩
  | fastForward ready _ base _ =>
    obtain rfl := same ready.repository
    refine ⟨_, rfl, .congr_left (.advance fun tip => ?_) rfl rfl⟩
    obtain rfl := Option.some.inj (tip.symm.trans ready.tip)
    exact (leads_of_mergeBase base).2
  | join ready _ _ _ _ _ recorded =>
    obtain rfl := same ready.repository
    refine ⟨_, rfl, .congr_left (.record recorded (hs _ hr).1.grown (fresh' _ rfl) ?_) rfl rfl⟩
    intro tip h
    obtain rfl := Option.some.inj (h.symm.trans ready.tip)
    exact List.mem_cons_self
  | conflict ready _ _ _ _ _ _ => exact ⟨_, rfl, same ready.repository ▸ .of_eq rfl rfl⟩
  | addRemote hr' _ => exact ⟨_, rfl, same hr' ▸ .of_eq rfl rfl⟩
  | removeRemote hr' _ => exact ⟨_, rfl, same hr' ▸ .of_eq rfl rfl⟩

lemma run_growsInto (hw : Reachable w) {ops : List Operation} (uncleared : .clear ∉ ops)
    (hrun : w.run ops = some w') (hr : w.repository = some r) :
    ∃ r', w'.repository = some r' ∧ r.GrowsInto r' := by
  induction ops generalizing w r with
  | nil => exact ⟨r, Option.some.inj hrun ▸ hr, .refl r⟩
  | cons op ops ih =>
    rw [List.mem_cons, not_or] at uncleared
    rw [Workspace.run] at hrun
    split at hrun
    · rename_i fresh
      obtain ⟨r₁, hr₁, h₁⟩ :=
        (op.transition w).growsInto hw.sound fresh (Ne.symm uncleared.1) hr
      obtain ⟨r₂, hr₂, h₂⟩ := ih (hw.step op fresh) uncleared.2 hrun hr₁
      exact ⟨r₂, hr₂, h₁.trans h₂⟩
    · cases hrun

lemma log_of_branch (hr : w.repository = some r) (hl : Linked r) {name : String} {id : CommitId}
    (h : r.branches.get? name = some id) : w.log name = .ok (r.history.log id) := by
  simp only [Workspace.log, ask, hr, hl.resolve_branch h]

/-- What a workspace has recorded is recorded in a later one as well. -/
structure Preserved (w w' : Workspace) (r r' : Repository) : Prop where
  commits : ∀ {id c}, r.history.find? id = some c → r'.history.find? id = some c
  branches : ∀ {name old}, r.branches.get? name = some old →
    ∃ new, r'.branches.get? name = some new ∧ Leads r'.history new old
  logs : ∀ {name}, r.branches.contains name = true →
    ∃ before after, w.log name = .ok before ∧ w'.log name = .ok after ∧ before ⊆ after

lemma preserved_of_growsInto (hr : w.repository = some r) (hr' : w'.repository = some r')
    (hl : Linked r) (hl' : Linked r') (h : r.GrowsInto r') : Preserved w w' r r' where
  commits hc := by
    rw [hl.grown.find?_iff] at hc
    exact hl'.grown.find?_iff.2 ⟨h.commits hc.1, hc.2⟩
  branches := h.branches
  logs {name} hb := by
    obtain ⟨old, hold⟩ := Table.contains_iff.1 hb
    obtain ⟨new, hnew, hleads⟩ := h.branches hold
    refine ⟨_, _, log_of_branch hr hl hold, log_of_branch hr' hl' hnew, fun c hc => ?_⟩
    rw [mem_log_iff hl.grown] at hc
    exact (mem_log_iff hl'.grown).2 ⟨h.commits hc.1, hleads.trans (hc.2.mono h.commits)⟩

/-- **History is append-only.** After any operations but `clear`, whether they succeed, fail or stop
on conflicts, every commit is there as it was recorded, every branch is there and leads back to
where it was, and its log still lists all that it listed before. -/
theorem history_append_only (hw : Reachable w) {ops : List Operation} (uncleared : .clear ∉ ops)
    (hrun : w.run ops = some w') (hr : w.repository = some r) :
    ∃ r', w'.repository = some r' ∧ Preserved w w' r r' := by
  obtain ⟨r', hr', h⟩ := run_growsInto hw uncleared hrun hr
  have hl := (hw.sound r hr).1
  have hl' := ((hw.run ops hrun).sound r' hr').1
  exact ⟨r', hr', preserved_of_growsInto hr hr' hl hl' h⟩

/-- What ends the merge that has stopped and moves `main` on to its commit; the last is refused. -/
def resolution : List Operation :=
  [.write "a" "both\n", .add "a", .commit 0 "4" ⟨"", ""⟩, .checkout "main", .merge 0 "b" ⟨"", ""⟩,
    .createBranch "b"]

theorem history_append_only_resolution :
    Reachable halted ∧ .clear ∉ resolution ∧ halted.repository = some haltedRepository ∧
      ∃ w' r', halted.run resolution = some w' ∧ w'.repository = some r' ∧
        Preserved halted w' haltedRepository r' := by
  have uncleared : .clear ∉ resolution := by simp [resolution]
  obtain ⟨w', hrun⟩ : ∃ w', halted.run resolution = some w' :=
    Option.isSome_iff_exists.1 (by decide +kernel)
  obtain ⟨r', hr', h⟩ := history_append_only reachable_halted uncleared hrun rfl
  exact ⟨reachable_halted, uncleared, rfl, w', r', hrun, hr', h⟩

end Workspace

end GitTutor
