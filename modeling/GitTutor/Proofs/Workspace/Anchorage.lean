import GitTutor.Proofs.Repository.References
import GitTutor.Proofs.Workspace.Transition

/-!
References keep standing at commits.

Whatever the ids of new commits are, even if they are those of old ones, the branches and the head
of a workspace stand at commits of its history after any operation. So a log that can be read is
never empty.
-/

namespace GitTutor

open History

namespace Repository

variable {r r' : Repository} {id : CommitId}

lemma mem_ids_insert {h : History} {c : Commit} {id : CommitId} :
    id ∈ (h.insert c).ids ↔ id = c.id ∨ id ∈ h.ids := by
  have others : id ∈ History.ids (h.filter (·.id ≠ c.id)) ↔ id ∈ h.ids ∧ id ≠ c.id := by
    simp only [mem_ids_iff, List.mem_filter, decide_eq_true_eq]
    constructor
    · rintro ⟨d, ⟨hd, hne⟩, rfl⟩
      exact ⟨⟨d, hd, rfl⟩, hne⟩
    · rintro ⟨⟨d, hd, rfl⟩, hne⟩
      exact ⟨d, ⟨hd, hne⟩, rfl⟩
  rw [← List.takeWhile_append_dropWhile (p := (·.precedes c)) (l := h.filter (·.id ≠ c.id)), ids,
    List.map_append, List.mem_append] at others
  rw [History.insert, ids, List.map_append, List.map_cons, List.mem_append, List.mem_cons,
    or_left_comm, others]
  by_cases same : id = c.id <;> simp [same]

namespace Anchored

lemma start (branch : String) : Anchored (.start branch) where
  branches := by simp [Repository.start]
  head := by simp [Repository.start, headId]

lemma congr (h : Anchored r) (history : r'.history = r.history)
    (branches : r'.branches = r.branches) (head : r'.head = r.head) : Anchored r' where
  branches hb := history ▸ h.branches (branches ▸ hb)
  head hd := by
    rw [headId, branches, head] at hd
    exact history ▸ h.head hd

lemma createBranch (h : Anchored r) {name : String} (tip : r.headId = some id) :
    Anchored { r with branches := r.branches.insert name id } where
  branches hb := by
    rw [Table.get?_insert] at hb
    split at hb
    · exact Option.some.inj hb ▸ h.head tip
    · exact h.branches hb
  head hd := by
    rw [headId_insert_tip tip, Option.some.injEq] at hd
    exact hd ▸ h.head tip

lemma checkout (h : Anchored r) {reference : String} {head : Head}
    (goal : r.destination reference = .ok (.commit head id)) : Anchored { r with head } where
  branches := h.branches
  head hd := by
    rw [headId_of_destination goal, Option.some.injEq] at hd
    exact hd ▸ h.destination_mem goal

lemma advance (h : Anchored r) (hid : id ∈ r.history.ids) : Anchored (r.advance id) where
  branches hb := by
    rw [history_advance]
    rcases branches_advance hb with ⟨rfl, -⟩ | hb
    · exact hid
    · exact h.branches hb
  head hd := by
    rw [headId_advance, Option.some.injEq] at hd
    rwa [history_advance, ← hd]

lemma record (h : Anchored r) {now : Int64} {tree : Tree} {parents : List CommitId}
    {message : String} {author : Signature}
    (recorded : r.record now tree parents message author = (id, r')) : Anchored r' := by
  rw [Repository.record, Prod.mk.injEq] at recorded
  obtain ⟨-, rfl⟩ := recorded
  refine advance ⟨fun hb => ?_, fun hd => ?_⟩ (mem_ids_insert.2 (.inl rfl))
  · exact mem_ids_insert.2 (.inr (h.branches hb))
  · exact mem_ids_insert.2 (.inr (h.head hd))

lemma log_ne_nil (h : Anchored r) {reference : String} (names : r.resolve reference = .ok id) :
    r.history.log id ≠ [] := by
  obtain ⟨c, hc, rfl⟩ := mem_ids_iff.1 (h.resolve_mem names)
  have found : c.id ∈ r.history.ancestors c.id :=
    subset_closure _ _ _ (List.mem_singleton_self c.id)
  refine List.ne_nil_of_mem (a := c) (List.mem_filter.2 ⟨hc, ?_⟩)
  rwa [decide_eq_true_eq]

end Anchored

end Repository

namespace Workspace

open Repository

variable {w w' : Workspace}

/-- The references of the repository, if there is one, stand at commits. -/
def Anchored (w : Workspace) : Prop := ∀ r, w.repository = some r → r.Anchored

lemma anchored_of {files : Tree} {r : Repository} (h : r.Anchored) : Anchored ⟨files, some r⟩ := by
  intro r' h'
  exact Option.some.inj h' ▸ h

lemma anchored_empty : Anchored .empty := by
  intro r h
  cases h

lemma Transition.anchored {op : Operation} {answer : Except RepoError Answer}
    (ht : Transition w op answer w') (h : Anchored w) : Anchored w' := by
  cases ht with
  | refused _ => exact h
  | write path content => exact h
  | clear => exact anchored_empty
  | initialized _ => exact h
  | start _ _ => exact anchored_of (.start _)
  | stage hr _ => exact anchored_of ((h _ hr).congr rfl rfl rfl)
  | unstage hr _ _ => exact anchored_of ((h _ hr).congr rfl rfl rfl)
  | commit hr _ _ recorded =>
    refine anchored_of (.record ?_ recorded)
    exact (h _ hr).congr rfl rfl rfl
  | branch hr _ _ tip => exact anchored_of ((h _ hr).createBranch tip)
  | stay _ _ _ => exact h
  | switch hr _ goal _ => exact anchored_of ((h _ hr).checkout goal)
  | move hr _ goal _ _ _ =>
    exact anchored_of (((h _ hr).checkout goal).congr rfl rfl rfl)
  | upToDate _ _ => exact h
  | @fastForward r _ _ _ _ theirs _ ready _ _ _ =>
    have hr := h _ ready.repository
    have hr' : Repository.Anchored { r with index := r.treeOf theirs } := hr.congr rfl rfl rfl
    exact anchored_of (hr'.advance (hr.resolve_mem ready.names))
  | join ready _ _ _ _ _ recorded =>
    refine anchored_of (.record ?_ recorded)
    exact (h _ ready.repository).congr rfl rfl rfl
  | conflict ready _ _ _ _ _ _ =>
    exact anchored_of ((h _ ready.repository).congr rfl rfl rfl)
  | addRemote hr _ => exact anchored_of ((h _ hr).congr rfl rfl rfl)
  | removeRemote hr _ => exact anchored_of ((h _ hr).congr rfl rfl rfl)

lemma Anchored.perform (h : Anchored w) (op : Operation) : Anchored (op.perform w).2 :=
  (op.transition w).anchored h

lemma Anchored.log_ne_nil (h : Anchored w) {reference : String} {log : List Commit}
    (read : w.log reference = .ok log) : log ≠ [] := by
  unfold Workspace.log ask at read
  split at read
  · cases read
  · rename_i r hr
    dsimp only at read
    split at read
    · rename_i id names
      exact Except.ok.inj read ▸ (h r hr).log_ne_nil names
    · cases read

end Workspace

end GitTutor
