import GitTutor.Proofs.Workspace.Consistency

/-!
Ending a merge that has stopped on conflicts.

Files may be written and added in any order. A conflict goes away when its file is added, and in no
other way, so that what is left is known from the edits alone (`Awaits.edited`). As long as a file
is left, commits, checkouts and merges are refused; when none is, a commit joins both sides of the
merge, whatever has become of the files.
-/

namespace GitTutor

open History

namespace Repository

variable {r r' : Repository} {files : Tree} {ours theirs id : CommitId} {now : Int64}
  {message : String} {author : Signature}

lemma Layered.conflicted_names (layers : Layered r files) :
    ((r.status files).entries.filter fun e => e.2 = .conflicted).map (·.1) = r.conflicts.names := by
  have heq : ((r.status files).pick fun _ status =>
      if status = .conflicted then some () else none) = r.conflicts := by
    refine Table.ext fun path => ?_
    rw [Table.get?_pick]
    cases hc : r.conflicts.contains path with
    | true =>
      -- What is in conflict is staged, and so among the paths that have a status.
      have hi := layers.conflicts path hc
      have hs : (r.status files).get? path = some .conflicted := by
        obtain ⟨content, hi⟩ := Table.contains_iff.1 hi
        obtain ⟨file, hf⟩ := layers.index.get? hi
        simp [Repository.status, NameSet.union, hc, hf]
      obtain ⟨⟨⟩, hunit⟩ := Table.contains_iff.1 hc
      simp [hs, hunit]
    | false =>
      rw [Table.contains_eq_false_iff.1 hc, get?_status_of_settled hc]
      cases hs : FileStatus.ofContents (r.headTree.get? path) (r.index.get? path)
          (files.get? path) with
      | none => rfl
      | some status =>
        have hne : status ≠ .conflicted := fun h =>
          FileStatus.ofContents_ne_conflicted _ _ _ (h ▸ hs)
        simp [hne]
  rw [← heq, Table.names_pick]
  congr 2
  funext e
  by_cases h : e.2 = .conflicted <;> simp [h]

/-- The repository `r`, in which a merge of `theirs` into `ours` was pending, has become `r'` by a
commit of its index that ends the merge. -/
structure Concluded (r r' : Repository) (ours theirs id : CommitId) (now : Int64)
    (message : String) (author : Signature) : Prop where
  commit : ∃ c, r'.history.find? id = some c ∧ c.toSnapshot =
    { tree := r.index, parents := [ours, theirs], author, seconds := now,
      seq := r.history.length, message }
  head : r'.headId = some id
  mergeHead : r'.mergeHead = none
  leads : Leads r'.history id theirs

end Repository

namespace Workspace

open Repository

variable {w w' : Workspace} {r : Repository} {ours theirs : CommitId} {left : List String}

/-! ### What conflicts refuse, and what ends a merge -/

lemma commit_of_conflicts (hr : w.repository = some r) (h : r.conflicts ≠ ∅) (now : Int64)
    (message : String) (author : Signature) :
    w.commit now message author = (.error (.unresolvedConflicts r.conflicts.names), w) := by
  simp [commit, onRepository, hr, mt Table.isEmpty_iff.1 h]

lemma checkout_of_conflicts (hr : w.repository = some r) (h : r.conflicts ≠ ∅)
    (reference : String) :
    w.checkout reference = (.error (.unresolvedConflicts r.conflicts.names), w) := by
  simp [checkout, onRepository, hr, mt Table.isEmpty_iff.1 h]

lemma merge_of_conflicts (hr : w.repository = some r) (h : r.conflicts ≠ ∅) (now : Int64)
    (reference : String) (author : Signature) :
    w.merge now reference author = (.error (.unresolvedConflicts r.conflicts.names), w) := by
  simp [merge, onRepository, hr, mt Table.isEmpty_iff.1 h]

lemma commit_of_pending (hr : w.repository = some r) (calm : r.conflicts = ∅)
    (tip : r.headId = some ours) (pending : r.mergeHead = some theirs) (now : Int64)
    (message : String) (author : Signature) :
    ∃ id r', w.commit now message author = (.ok id, ⟨w.files, some r'⟩) ∧
      r.Concluded r' ours theirs id now message author := by
  have hcalm : r.conflicts.isEmpty = true := Table.isEmpty_iff.2 calm
  set c := Commit.ofSnapshot
    { tree := r.index, parents := [ours, theirs], author, seconds := now,
      seq := r.history.length, message } with hc
  refine ⟨c.id, { r with mergeHead := none, history := r.history.insert c }.advance c.id, ?_, ?_⟩
  · simp [commit, onRepository, hr, hcalm, tip, pending, Repository.record, hc]
  · refine ⟨⟨c, ?_, rfl⟩, headId_advance, mergeHead_advance, ?_⟩
    · rw [history_advance]
      exact find?_insert_self _ c
    · rw [history_advance]
      refine Relation.ReflTransGen.single ⟨c, ?_, rfl, by simp [hc, Commit.ofSnapshot]⟩
      simp [History.insert]

/-! ### Edits -/

/-- What is done to the files of a merge that has stopped. -/
inductive Edit where
  | write (path content : String)
  | add (path : String)
  deriving DecidableEq

def Edit.operation : Edit → Operation
  | write path content => .write path content
  | add path => .add path

/-- The workspace after edits. To add a path without a file changes nothing. -/
def edited (w : Workspace) (edits : List Edit) : Workspace :=
  edits.foldl (fun w edit => (edit.operation.perform w).2) w

/-- A merge of `theirs` into `ours`, which is checked out, waits for the files `left` to be
added. -/
structure Awaits (w : Workspace) (r : Repository) (ours theirs : CommitId)
    (left : List String) : Prop where
  sound : Sound w
  repository : w.repository = some r
  tip : r.headId = some ours
  pending : r.mergeHead = some theirs
  conflicts : r.conflicts.names = left

lemma Sound.edit (hs : Sound w) (edit : Edit) : Sound (edit.operation.perform w).2 := by
  refine hs.step (edit.operation.transition w) fun id hid => ?_
  cases edit with
  | write path content => cases hid
  | add path =>
    rw [Edit.operation, Operation.perform] at hid
    generalize w.add path = outcome at hid
    obtain ⟨_ | _, _⟩ := outcome <;> cases hid

lemma Awaits.edit (h : Awaits w r ours theirs left) (edit : Edit) :
    ∃ r', Awaits (edit.operation.perform w).2 r' ours theirs (left.filter (.add · ≠ edit)) := by
  have hs := h.sound.edit edit
  obtain ⟨-, layers⟩ := h.sound r h.repository
  cases edit with
  | write path content =>
    refine ⟨r, hs, h.repository, h.tip, h.pending, ?_⟩
    rw [h.conflicts, List.filter_eq_self.2 (by simp)]
  | add path =>
    cases file : w.files.get? path with
    | some content =>
      have hadd : (Operation.add path).perform w = (.ok .done, ⟨w.files, some { r with
          index := r.index.insert path content, conflicts := r.conflicts.erase path }⟩) := by
        simp [Operation.perform, Workspace.add, onRepository, h.repository, file, Answer.wrap]
      rw [Edit.operation, hadd] at hs ⊢
      refine ⟨_, hs, rfl, h.tip, h.pending, ?_⟩
      rw [Table.names_erase, h.conflicts]
      simp
    | none =>
      -- There is no such file, so that it is neither staged nor left.
      have unstaged := layers.index.get?_eq_none file
      have absent := Table.contains_eq_false_iff.2 (layers.conflicts.get?_eq_none unstaged)
      have hadd := add_of_absent h.repository file (Table.contains_eq_false_iff.2 unstaged)
      rw [Edit.operation, Operation.perform, hadd, Answer.wrap]
      refine ⟨r, h.sound, h.repository, h.tip, h.pending, ?_⟩
      rw [h.conflicts, eq_comm, List.filter_eq_self]
      intro other hleft
      rw [← h.conflicts, Table.mem_names_iff] at hleft
      have hne : other ≠ path := by
        rintro rfl
        rw [absent] at hleft
        cases hleft
      simpa using hne

/-- **What is left after edits are the files that none of them has added.** -/
lemma Awaits.edited (h : Awaits w r ours theirs left) (edits : List Edit) :
    ∃ r', Awaits (w.edited edits) r' ours theirs (left.filter fun path => .add path ∉ edits) := by
  induction edits generalizing w r left with
  | nil => exact ⟨r, by rwa [List.filter_eq_self.2 (by simp)]⟩
  | cons edit edits ih =>
    obtain ⟨r₁, h₁⟩ := h.edit edit
    obtain ⟨r₂, h₂⟩ := ih h₁
    refine ⟨r₂, ?_⟩
    have hleft : (left.filter (.add · ≠ edit)).filter (fun path => .add path ∉ edits) =
        left.filter fun path => .add path ∉ edit :: edits := by
      rw [List.filter_filter]
      refine List.filter_congr fun path _ => ?_
      simp [Bool.and_comm]
    rwa [hleft] at h₂

lemma awaits_of_stopped (hw : Reachable w) {now : Int64} {reference here there : String}
    {author : Signature} {paths : List String} (stopped :
      w.merge now reference author = (.error (.mergeConflict here there paths), w')) :
    ∃ r ours theirs, Ready w r reference ours theirs ∧
      ∃ r', Awaits w' r' ours theirs paths := by
  obtain ⟨r, ours, theirs, files, ready, -, swap, rfl, rfl⟩ := stopped_of_mergeConflict stopped
  obtain ⟨hl, -⟩ := hw.sound r ready.repository
  have hs := sound_of (stopped_sound hl ready.tip (hl.resolve_mem ready.names) rfl
    (within_of_swap swap))
  exact ⟨r, ours, theirs, ready, _, hs, rfl, ready.tip, rfl, Table.names_nameSet _⟩

/-! ### The protocol -/

/-- What a workspace answers while a merge of `theirs` into `ours` waits for the files `left`:
as long as there are any, each can be added and nothing else goes on; then a commit ends the
merge. -/
structure Protocol (w : Workspace) (ours theirs : CommitId) (left : List String) : Prop where
  commit : left ≠ [] → ∀ now message author,
    w.commit now message author = (.error (.unresolvedConflicts left), w)
  checkout : left ≠ [] → ∀ reference,
    w.checkout reference = (.error (.unresolvedConflicts left), w)
  merge : left ≠ [] → ∀ now reference author,
    w.merge now reference author = (.error (.unresolvedConflicts left), w)
  status : ∃ entries, w.status = .ok entries ∧
    (entries.filter fun e => e.2 = .conflicted).map (·.1) = left
  add : ∀ path ∈ left, (w.add path).1 = .ok ()
  conclude : left = [] → ∀ now message author, ∃ r id r', w.repository = some r ∧
    w.commit now message author = (.ok id, ⟨w.files, some r'⟩) ∧
    r.Concluded r' ours theirs id now message author

lemma Awaits.protocol (h : Awaits w r ours theirs left) : Protocol w ours theirs left := by
  obtain ⟨-, layers⟩ := h.sound r h.repository
  obtain rfl := h.conflicts
  refine ⟨fun hne => ?_, fun hne => ?_, fun hne => ?_, ⟨_, ?_, layers.conflicted_names⟩, ?_, ?_⟩
  · exact commit_of_conflicts h.repository (mt Table.names_eq_nil_iff.2 hne)
  · exact checkout_of_conflicts h.repository (mt Table.names_eq_nil_iff.2 hne)
  · exact merge_of_conflicts h.repository (mt Table.names_eq_nil_iff.2 hne)
  · rw [Workspace.status, ask, h.repository]
  · intro path hleft
    have staged := layers.conflicts path (Table.mem_names_iff.1 hleft)
    obtain ⟨content, file⟩ := Table.contains_iff.1 (layers.index path staged)
    simp [Workspace.add, onRepository, h.repository, file]
  · intro hnil now message author
    obtain ⟨id, r', hcommit, hc⟩ := commit_of_pending h.repository
      (Table.names_eq_nil_iff.1 hnil) h.tip h.pending now message author
    exact ⟨r, id, r', h.repository, hcommit, hc⟩

/-- **Conflicts are resolved file by file, in any order.** After a merge has stopped, and whatever
files are then written and added, the workspace waits for exactly those of its files that have not
been added, and when all have been, a commit ends the merge. -/
theorem resolved_in_any_order (hw : Reachable w) {now : Int64} {reference here there : String}
    {author : Signature} {paths : List String} (stopped :
      w.merge now reference author = (.error (.mergeConflict here there paths), w'))
    (edits : List Edit) :
    ∃ r ours theirs, w.repository = some r ∧ r.headId = some ours ∧
      r.resolve reference = .ok theirs ∧
      Protocol (w'.edited edits) ours theirs (paths.filter fun path => .add path ∉ edits) := by
  obtain ⟨r, ours, theirs, ready, r₁, h₁⟩ := awaits_of_stopped hw stopped
  obtain ⟨r₂, h₂⟩ := h₁.edited edits
  exact ⟨r, ours, theirs, ready.repository, ready.tip, ready.names, h₂.protocol⟩

/-- The current side of the one file in conflict is kept. -/
theorem resolved_in_any_order_halted :
    Reachable diverged ∧ diverged.merge 0 "main" ⟨"", ""⟩ =
        (.error (.mergeConflict "b" "main" ["a"]), halted) ∧
      ∃ r ours theirs, diverged.repository = some r ∧ r.headId = some ours ∧
        r.resolve "main" = .ok theirs ∧ Protocol (halted.edited [.write "b" ""]) ours theirs ["a"] ∧
        Protocol (halted.edited [.write "a" "z\n", .add "m", .add "a"]) ours theirs [] := by
  obtain ⟨r, ours, theirs, hr, tip, names, before⟩ :=
    resolved_in_any_order reachable_diverged merge_diverged_halts [.write "b" ""]
  obtain ⟨r', ours', theirs', hr', tip', names', after⟩ :=
    resolved_in_any_order reachable_diverged merge_diverged_halts
      [.write "a" "z\n", .add "m", .add "a"]
  obtain rfl := Option.some.inj (hr.symm.trans hr')
  obtain rfl := Option.some.inj (tip.symm.trans tip')
  obtain rfl := Except.ok.inj (names.symm.trans names')
  exact ⟨reachable_diverged, merge_diverged_halts, r, ours, theirs, hr, tip, names,
    by simpa using before, by simpa using after⟩

end Workspace

end GitTutor
