import GitTutor.Proofs.Text.ByteOrder
import GitTutor.Proofs.Workspace.Checkout
import GitTutor.Proofs.Workspace.Pending

/-!
What a status tells.

Path by path, a status compares three contents: that of the commit that is checked out, that of the
index and that of the file. As the paths of a reachable repository only grow from layer to layer,
nothing is missing where something is staged, so that what a status leaves out is the same in all
three, and what the guards of the operations ask can be read off it: whether anything but untracked
files has changed, and whether there is anything to commit.
-/

namespace GitTutor

lemma FileStatus.index_eq_head_iff {head index file : Option String}
    (tracked : index = none → head = none) (filed : file = none → index = none) :
    index = head ↔ ofContents head index file ≠ some .stagedNew ∧
      ofContents head index file ≠ some .stagedModified ∧
      (ofContents head index file = some .modified → index = head) := by
  constructor
  · rintro rfl
    refine ⟨?_, ?_, fun _ => rfl⟩ <;> cases index <;> cases file <;>
      simp only [ofContents] <;> (repeat' split) <;> simp_all
  · rintro ⟨new, changed, edited⟩
    cases index with
    | none => exact (tracked rfl).symm
    | some i =>
      cases file with
      | none => cases filed rfl
      | some f =>
        by_cases same : i = f
        · subst same
          cases head with
          | none => simp [ofContents] at new
          | some h =>
            by_cases unchanged : h = i
            · rw [unchanged]
            · simp [ofContents, unchanged] at changed
        · refine edited ?_
          cases head <;> simp [ofContents, same]

namespace Repository

variable {r : Repository} {files : Tree} {path : String}

/-- The commit that is checked out, the index or the files have the path. -/
def Appears (r : Repository) (files : Tree) (path : String) : Prop :=
  r.headTree.contains path = true ∨ r.index.contains path = true ∨ files.contains path = true

/-- All three have the path, with one content. -/
def Alike (r : Repository) (files : Tree) (path : String) : Prop :=
  ∃ content, r.headTree.get? path = some content ∧ r.index.get? path = some content ∧
    files.get? path = some content

lemma appears_iff : r.Appears files path ↔
    ¬(r.headTree.get? path = none ∧ r.index.get? path = none ∧ files.get? path = none) := by
  rw [Appears, ← Table.contains_eq_false_iff, ← Table.contains_eq_false_iff,
    ← Table.contains_eq_false_iff]
  cases r.headTree.contains path <;> cases r.index.contains path <;>
    cases files.contains path <;> simp

lemma alike_iff : r.Alike files path ↔ r.Appears files path ∧
    r.headTree.get? path = r.index.get? path ∧ r.index.get? path = files.get? path := by
  rw [appears_iff]
  constructor
  · rintro ⟨content, hh, hi, hf⟩
    simp [hh, hi, hf]
  · rintro ⟨appears, head, index⟩
    rw [head, index] at appears
    obtain ⟨content, hf⟩ := Option.ne_none_iff_exists'.1 fun hf => appears ⟨hf, hf, hf⟩
    exact ⟨content, head.trans (index.trans hf), index.trans hf, hf⟩

namespace Layered

lemma file_of_conflict (layers : Layered r files) (conflict : r.conflicts.contains path = true) :
    files.contains path = true :=
  layers.index path (layers.conflicts path conflict)

lemma get?_status_eq_conflicted_iff (layers : Layered r files) :
    (r.status files).get? path = some .conflicted ↔ r.conflicts.contains path = true := by
  cases conflict : r.conflicts.contains path with
  | false =>
    rw [get?_status_of_settled conflict]
    exact iff_of_false (FileStatus.ofContents_ne_conflicted _ _ _) Bool.false_ne_true
  | true =>
    obtain ⟨content, file⟩ := Table.contains_iff.1 (layers.file_of_conflict conflict)
    simp [Repository.status, NameSet.union, conflict, file]

lemma contains_status_iff (layers : Layered r files) : (r.status files).contains path = true ↔
    r.Appears files path ∧ (r.conflicts.contains path = true ∨ ¬r.Alike files path) := by
  cases conflict : r.conflicts.contains path with
  | true =>
    have appears : r.Appears files path := .inr (.inr (layers.file_of_conflict conflict))
    have listed := Table.contains_of_get? (layers.get?_status_eq_conflicted_iff.2 conflict)
    exact iff_of_true listed ⟨appears, .inl rfl⟩
  | false =>
    rw [← not_iff_not, Bool.not_eq_true, Table.contains_eq_false_iff,
      get?_status_of_settled conflict, FileStatus.ofContents_eq_none_iff, alike_iff]
    -- A path that appears nowhere is the same in all three, as there is nothing to compare.
    constructor
    · rintro same ⟨appears, h⟩
      exact h.elim Bool.false_ne_true fun h => h ⟨appears, same⟩
    · intro h
      by_cases appears : r.Appears files path
      · by_contra other
        exact h ⟨appears, .inr fun alike => other alike.2⟩
      · obtain ⟨hh, hi, hf⟩ := not_not.1 (mt appears_iff.2 appears)
        rw [hh, hi, hf]
        exact ⟨rfl, rfl⟩

lemma conflicts_eq_empty (layers : Layered r files)
    (none : ∀ path, (r.status files).get? path ≠ some .conflicted) : r.conflicts = ∅ := by
  refine Table.eq_empty_of_get? fun path => Table.contains_eq_false_iff.1 ?_
  rw [← Bool.not_eq_true]
  exact mt layers.get?_status_eq_conflicted_iff.2 (none path)

lemma status_eq_empty_iff (layers : Layered r files) :
    r.status files = ∅ ↔ r.headTree = r.index ∧ r.index = files ∧ r.conflicts = ∅ := by
  constructor
  · intro h
    have calm : r.conflicts = ∅ := layers.conflicts_eq_empty fun path => by simp [h]
    obtain ⟨head, index⟩ := trees_of_status_eq_empty calm h
    exact ⟨head, index, calm⟩
  · rintro ⟨head, index, calm⟩
    refine Table.eq_empty_of_get? fun path => ?_
    rw [get?_status calm, FileStatus.ofContents_eq_none_iff, head, index]
    exact ⟨rfl, rfl⟩

lemma trackedChanges_eq_nil_iff (layers : Layered r files) :
    r.trackedChanges files = [] ↔ r.conflicts = ∅ ∧ r.index = r.headTree ∧
      ∀ path content, r.headTree.get? path = some content → files.get? path = some content := by
  constructor
  · intro clean
    have calm : r.conflicts = ∅ := layers.conflicts_eq_empty fun path h => by
      have listed := mem_trackedChanges.2 ⟨_, h, FileStatus.noConfusion⟩
      rw [clean] at listed
      exact List.not_mem_nil listed
    exact ⟨calm, layers.index_eq_headTree calm clean,
      fun _ _ => layers.file_of_headTree calm clean⟩
  · rintro ⟨calm, index, same⟩
    exact Repository.trackedChanges_eq_nil calm index.symm fun path content h =>
      same path content (index ▸ h)

lemma index_eq_headTree_iff (layers : Layered r files) (calm : r.conflicts = ∅) :
    r.index = r.headTree ↔ ∀ path, (r.status files).get? path ≠ some .stagedNew ∧
      (r.status files).get? path ≠ some .stagedModified ∧
      ((r.status files).get? path = some .modified →
        r.index.get? path = r.headTree.get? path) := by
  have pathwise : r.index = r.headTree ↔ ∀ path, r.index.get? path = r.headTree.get? path :=
    ⟨fun h path => by rw [h], Table.ext⟩
  rw [pathwise]
  refine forall_congr' fun path => ?_
  rw [get?_status calm]
  exact FileStatus.index_eq_head_iff layers.headTree.get?_eq_none layers.index.get?_eq_none

end Layered

end Repository

namespace Workspace

open Repository

variable {w : Workspace} {r : Repository}

lemma commit_nothing_iff (hr : w.repository = some r) (now : Int64) (message : String)
    (author : Signature) : (w.commit now message author).1 = .error .nothingToCommit ↔
      r.conflicts = ∅ ∧ r.mergeHead = none ∧ r.index = r.headTree := by
  constructor
  · intro h
    have calm : r.conflicts = ∅ := by
      by_contra conflicts
      rw [commit_of_conflicts hr conflicts] at h
      cases h
    by_contra other
    have hcalm : r.conflicts.isEmpty = true := Table.isEmpty_iff.2 calm
    have busy : ¬(r.index = r.headTree ∧ r.mergeHead = none) := fun h => other ⟨calm, h.2, h.1⟩
    simp [commit, onRepository, hr, hcalm, busy] at h
  · rintro ⟨calm, idle, same⟩
    rw [commit_of_unchanged hr calm same idle]

/-- What the entries of a status tell about a workspace and its repository. -/
structure StatusTells (w : Workspace) (r : Repository) (entries : List (String × FileStatus)) :
    Prop where
  ordered : (entries.map (·.1)).Pairwise fun a b => Text.bytes a < Text.bytes b
  conflicted : ∀ path, (path, .conflicted) ∈ entries ↔ r.conflicts.contains path = true
  listed : ∀ path, path ∈ entries.map (·.1) ↔
    r.Appears w.files path ∧ (r.conflicts.contains path = true ∨ ¬r.Alike w.files path)
  empty : entries = [] ↔ r.headTree = r.index ∧ r.index = w.files ∧ r.conflicts = ∅
  untracked : (∀ entry ∈ entries, entry.2 = .untracked) ↔
    r.conflicts = ∅ ∧ r.index = r.headTree ∧
      ∀ path content, r.headTree.get? path = some content → w.files.get? path = some content
  nothing : ∀ now message author,
    (w.commit now message author).1 = .error .nothingToCommit ↔
      r.conflicts = ∅ ∧ r.mergeHead = none ∧ ∀ entry ∈ entries, entry.2 ≠ .stagedNew ∧
        entry.2 ≠ .stagedModified ∧
        (entry.2 = .modified → r.index.get? entry.1 = r.headTree.get? entry.1)

lemma mem_entries_iff {path : String} {status : FileStatus} :
    (path, status) ∈ (r.status w.files).entries ↔
      (r.status w.files).get? path = some status :=
  ⟨fun h => Entries.find_of_mem (r.status w.files).sorted h, Entries.mem_of_find⟩

lemma statusTells_of_layered (hr : w.repository = some r) (layers : Layered r w.files) :
    StatusTells w r (r.status w.files).entries where
  ordered := (Table.pairwise_names _).imp Text.bytes_lt
  conflicted path := mem_entries_iff.trans layers.get?_status_eq_conflicted_iff
  listed path := Table.mem_names_iff.trans layers.contains_status_iff
  empty := by
    rw [← layers.status_eq_empty_iff, ← Table.names_eq_nil_iff, Table.names, List.map_eq_nil_iff]
  untracked := by
    rw [← layers.trackedChanges_eq_nil_iff, trackedChanges, List.map_eq_nil_iff,
      List.filter_eq_nil_iff]
    simp
  nothing now message author := by
    rw [commit_nothing_iff hr]
    refine and_congr_right fun calm => and_congr_right fun _ => ?_
    rw [layers.index_eq_headTree_iff calm]
    constructor
    · rintro same ⟨path, status⟩ h
      have hget := mem_entries_iff.1 h
      refine ⟨?_, ?_, ?_⟩
      · rintro rfl
        exact (same path).1 hget
      · rintro rfl
        exact (same path).2.1 hget
      · rintro rfl
        exact (same path).2.2 hget
    · intro same path
      exact ⟨fun h => (same _ (mem_entries_iff.2 h)).1 rfl,
        fun h => (same _ (mem_entries_iff.2 h)).2.1 rfl,
        fun h => (same _ (mem_entries_iff.2 h)).2.2 rfl⟩

/-- **A status is sound and complete.** In every reachable workspace with a repository, the status
lists its paths in strictly ascending order of their bytes: those in conflict, and those that the
commit, the index and the files do not all have alike. It is empty exactly if the three are the same
and nothing is in conflict, has only untracked files exactly if no tracked path has changed, and
shows whether a commit finds nothing to do. -/
theorem status_sound_and_complete (hw : Reachable w) (hr : w.repository = some r) :
    ∃ entries, w.status = .ok entries ∧ StatusTells w r entries := by
  refine ⟨(r.status w.files).entries, ?_, statusTells_of_layered hr (hw.sound r hr).2⟩
  rw [Workspace.status, ask, hr]

/-- A merge has stopped on the file `a`, and `n` is new from its other side. -/
theorem status_sound_and_complete_halted :
    Reachable halted ∧ halted.repository = some haltedRepository ∧
      halted.status = .ok [("a", .conflicted), ("n", .stagedNew)] ∧
      ∃ entries, halted.status = .ok entries ∧ StatusTells halted haltedRepository entries :=
  ⟨reachable_halted, rfl, by decide +kernel, status_sound_and_complete reachable_halted rfl⟩

end Workspace

end GitTutor
