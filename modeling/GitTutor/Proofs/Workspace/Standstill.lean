import GitTutor.Lesson.Verdict
import GitTutor.Proofs.Workspace.Integrity

/-!
What stands still while something is in conflict.

Only a merge that stops puts a path into conflict. As long as one is left, commits, checkouts and
further merges are refused, so that nothing is recorded and the head stays where it was. And since
only those three take files away or overwrite them, files that were there change only where they
are written.
-/

namespace GitTutor

namespace Workspace

open Repository

variable {w w' w'' : Workspace} {r r' r'' : Repository} {paths paths' : List String}

/-! ### No commits -/

/-- The history is the same, and the commit that is checked out. -/
structure SameHead (r r' : Repository) : Prop where
  history : r'.history = r.history
  headId : r'.headId = r.headId

lemma SameHead.refl (r : Repository) : SameHead r r := ⟨rfl, rfl⟩

lemma SameHead.trans (h : SameHead r r') (h' : SameHead r' r'') : SameHead r r'' :=
  ⟨h'.history.trans h.history, h'.headId.trans h.headId⟩

lemma SameHead.lastMessage? (h : SameHead r r') (hr : w.repository = some r)
    (hr' : w'.repository = some r') : w'.lastMessage? = w.lastMessage? := by
  simp only [Workspace.lastMessage?, log, ask, hr, hr', Repository.resolve, if_true, h.headId,
    h.history]
  cases r.headId <;> rfl

/-! ### Conflicts that stay -/

/-- Something is in conflict in `r` already. Between `r` and `r'` nothing is recorded, and of the
files that are there only those at `paths` may change. -/
structure Standing (paths : List String) (w w' : Workspace) (r r' : Repository) : Prop where
  repository : w.repository = some r
  conflicts : r.conflicts ≠ ∅
  head : SameHead r r'
  files : ∀ path content, path ∉ paths → w.files.get? path = some content →
    w'.files.get? path = some content

lemma Standing.trans (h : Standing paths w w' r r') (h' : Standing paths' w' w'' r' r'') :
    Standing (paths ++ paths') w w'' r r'' where
  repository := h.repository
  conflicts := h.conflicts
  head := h.head.trans h'.head
  files path content hp file := by
    rw [List.mem_append, not_or] at hp
    exact h'.files path content hp.2 (h.files path content hp.1 file)

/-- If anything is in conflict in `w'`, all has stood still since `w`. -/
def Standstill (paths : List String) (w w' : Workspace) : Prop :=
  ∀ r', w'.repository = some r' → r'.conflicts ≠ ∅ → ∃ r, Standing paths w w' r r'

namespace Standstill

lemma refl (paths : List String) (w : Workspace) : Standstill paths w w :=
  fun r hr conflicts => ⟨r, hr, conflicts, .refl r, fun _ _ _ h => h⟩

lemma trans (h : Standstill paths w w') (h' : Standstill paths' w' w'') :
    Standstill (paths ++ paths') w w'' := by
  intro r'' hr'' conflicts
  obtain ⟨r', later⟩ := h' r'' hr'' conflicts
  obtain ⟨r, earlier⟩ := h r' later.repository later.conflicts
  exact ⟨r, earlier.trans later⟩

lemma of_calm (calm : ∀ r', w'.repository = some r' → r'.conflicts = ∅) :
    Standstill paths w w' :=
  fun r' hr' conflicts => absurd (calm r' hr') conflicts

lemma of_some {files : Tree} (calm : r'.conflicts = ∅) : Standstill paths w ⟨files, some r'⟩ :=
  of_calm fun _ h => Option.some.inj h ▸ calm

lemma of_files (hr : w.repository = some r) (head : SameHead r r')
    (conflicts : r.conflicts = ∅ → r'.conflicts = ∅) :
    Standstill paths w ⟨w.files, some r'⟩ := by
  intro r'' hr'' hne
  obtain rfl := Option.some.inj hr''
  exact ⟨r, hr, mt conflicts hne, head, fun _ _ _ h => h⟩

lemma write (w : Workspace) (path content : String) :
    Standstill [path] w (w.write path content) := by
  intro r hr conflicts
  refine ⟨r, hr, conflicts, .refl r, fun other found hp file => ?_⟩
  rw [List.mem_singleton] at hp
  rw [Workspace.write, Table.get?_insert, if_neg (Ne.symm hp), file]

lemma write_new {path : String} (absent : w.fileExists path = false) (content : String) :
    Standstill [] w (w.write path content) := by
  intro r hr conflicts
  refine ⟨r, hr, conflicts, .refl r, fun other found _ file => ?_⟩
  have hne : path ≠ other := by
    rintro rfl
    rw [fileExists, Table.contains_of_get? file] at absent
    cases absent
  rw [Workspace.write, Table.get?_insert, if_neg hne, file]

end Standstill

/-! ### Operations -/

/-- The files that an operation writes, whatever they are before. -/
def Operation.written : Operation → List String
  | write path _ => [path]
  | _ => []

/-- Whether an operation has failed on a merge that stopped. -/
def Answer.Stops (answer : Except RepoError Answer) : Prop :=
  ∃ e, answer = .error e ∧ e.isMergeConflict = true

lemma erase_eq_empty {t : NameSet} (name : String) (h : t = ∅) : t.erase name = ∅ := by
  subst h
  rfl

lemma Transition.standstill {op : Operation} {answer : Except RepoError Answer}
    (ht : Transition w op answer w') : Answer.Stops answer ∨ Standstill op.written w w' := by
  cases ht with
  | refused _ => exact .inr (.refl _ _)
  | write path content => exact .inr (.write w path content)
  | clear => exact .inr (.of_calm fun _ h => by cases h)
  | initialized _ => exact .inr (.refl _ _)
  | start _ _ => exact .inr (.of_some rfl)
  | stage hr _ => exact .inr (.of_files hr ⟨rfl, rfl⟩ (erase_eq_empty _))
  | unstage hr _ _ => exact .inr (.of_files hr ⟨rfl, rfl⟩ (erase_eq_empty _))
  | commit _ calm _ recorded => exact .inr (.of_some ((conflicts_record recorded).trans calm))
  | branch hr _ _ tip =>
    exact .inr (.of_files hr ⟨rfl, (headId_insert_tip tip).trans tip.symm⟩ id)
  | stay _ _ _ => exact .inr (.refl _ _)
  | switch _ calm _ _ => exact .inr (.of_some calm)
  | move _ calm _ _ _ _ => exact .inr (.of_some calm)
  | upToDate _ _ => exact .inr (.refl _ _)
  | fastForward ready _ _ _ => exact .inr (.of_some (conflicts_advance.trans ready.calm))
  | join ready _ _ _ _ _ recorded =>
    exact .inr (.of_some ((conflicts_record recorded).trans ready.calm))
  | conflict _ _ _ _ _ _ _ => exact .inl ⟨_, rfl, rfl⟩
  | addRemote hr _ => exact .inr (.of_files hr ⟨rfl, rfl⟩ id)
  | removeRemote hr _ => exact .inr (.of_files hr ⟨rfl, rfl⟩ id)

lemma Operation.standstill (op : Operation) (w : Workspace)
    (plain : ∀ {e w'}, Transition w op (.error e) w' → e.isMergeConflict = false) :
    Standstill op.written w (op.perform w).2 := by
  refine (op.transition w).standstill.resolve_left ?_
  rintro ⟨e, he, conflict⟩
  have ht := op.transition w
  rw [he] at ht
  rw [plain ht] at conflict
  cases conflict

lemma standstill_createBranch (w : Workspace) (name : String) :
    Standstill [] w (w.createBranch name).2 := by
  have still := (Operation.createBranch name).standstill w fun ht => by
    cases ht with
    | refused plain => exact plain
  rwa [Operation.perform, Answer.wrap_snd] at still

lemma standstill_checkout (w : Workspace) (reference : String) :
    Standstill [] w (w.checkout reference).2 := by
  have still := (Operation.checkout reference).standstill w fun ht => by
    cases ht with
    | refused plain => exact plain
  rwa [Operation.perform, Answer.wrap_snd] at still

lemma Transition.sameHead_of_error {op : Operation} {e : RepoError}
    (ht : Transition w op (.error e) w') (hr' : w'.repository = some r') :
    ∃ r, w.repository = some r ∧ SameHead r r' := by
  cases ht with
  | refused _ => exact ⟨r', hr', .refl r'⟩
  | conflict ready _ _ _ _ _ _ =>
    exact ⟨_, ready.repository, Option.some.inj hr' ▸ ⟨rfl, rfl⟩⟩

end Workspace

end GitTutor
