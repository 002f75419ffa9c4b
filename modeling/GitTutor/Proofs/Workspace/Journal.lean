import GitTutor.Proofs.History.Numbering
import GitTutor.Proofs.Workspace.Integrity

/-!
Logs and the journal of a run.

A journal is kept beside a run. It takes down what each operation that makes a commit was told: the
message, the author and the time, and for the parents the commits that were checked out, merged or
waiting to be merged just then. Nothing in it is read off the history. Still the history tells the
same (`Journaled.told`), and a log tells, of all that the journal has, what parent links lead to.
-/

namespace GitTutor

/-- What a log tells of a commit. -/
structure LogEntry where
  id : CommitId
  message : String
  author : Signature
  seconds : Int64
  parents : List CommitId
  deriving DecidableEq

def Commit.entry (c : Commit) : LogEntry := ⟨c.id, c.message, c.author, c.seconds, c.parents⟩

/-- What was told of the commits of a run, the newest first. -/
abbrev Journal := List LogEntry

namespace Journal

/-- `parent` is among the parents that were told of `child`. -/
def Parent (journal : Journal) (child parent : CommitId) : Prop :=
  ∃ e ∈ journal, e.id = child ∧ parent ∈ e.parents

/-- Parent links come from `a` to `b`, perhaps in no step at all. -/
def Leads (journal : Journal) : CommitId → CommitId → Prop :=
  Relation.ReflTransGen journal.Parent

/-- `log` tells the history that the commit `tip` ends. -/
structure Tells (journal : Journal) (tip : CommitId) (log : List LogEntry) : Prop where
  /-- All that is told was taken down, and belongs to the history. -/
  exact : ∀ e, e ∈ log ↔ e ∈ journal ∧ journal.Leads tip e.id
  complete : ∀ id, journal.Leads tip id → ∃ e ∈ log, e.id = id
  once : (log.map (·.id)).Nodup
  first : (log.map (·.id)).head? = some tip
  /-- A commit is told of before each of its parents. -/
  ordered : ∀ e ∈ log, ∀ parent ∈ e.parents, ∃ d, d.id = parent ∧ [e, d].Sublist log

lemma parent_map_entry (h : History) : Parent (h.map Commit.entry) = History.Parent h := by
  funext child parent
  simp [Parent, History.Parent, Commit.entry]

lemma leads_map_entry (h : History) : Leads (h.map Commit.entry) = History.Leads h := by
  rw [Leads, parent_map_entry, History.Leads]

lemma tells_log {h : History} (hg : h.Grown) {id : CommitId} (known : id ∈ h.ids) :
    Tells (h.map Commit.entry) id ((h.log id).map Commit.entry) where
  exact e := by
    rw [leads_map_entry, List.mem_map, List.mem_map]
    constructor
    · rintro ⟨c, listed, rfl⟩
      obtain ⟨hc, hl⟩ := (History.mem_log_iff hg).1 listed
      exact ⟨⟨c, hc, rfl⟩, hl⟩
    · rintro ⟨⟨c, hc, rfl⟩, hl⟩
      exact ⟨c, (History.mem_log_iff hg).2 ⟨hc, hl⟩, rfl⟩
  complete id' hl := by
    rw [leads_map_entry] at hl
    obtain ⟨c, hc, rfl⟩ := History.mem_ids_iff.1 (hg.mem_of_leads known hl)
    exact ⟨c.entry, List.mem_map_of_mem ((History.mem_log_iff hg).2 ⟨hc, hl⟩), rfl⟩
  once := by
    rw [List.map_map]
    exact hg.nodup_ids.sublist ((History.log_sublist h id).map _)
  first := by
    obtain ⟨c, older, hlog, hid⟩ := hg.exists_log_eq_cons known
    rw [hlog, ← hid]
    rfl
  ordered e he parent hp := by
    obtain ⟨c, listed, rfl⟩ := List.mem_map.1 he
    obtain ⟨d, hid, later⟩ := hg.parent_listed_later listed hp
    exact ⟨d.entry, hid, later.map Commit.entry⟩

end Journal

namespace Workspace

open Repository

variable {w w' : Workspace} {r r' : Repository} {journal : Journal}

/-! ### Runs with a journal -/

/-- What an operation on `w` is told of the commit that it makes, if it makes one. -/
def Operation.entry? (op : Operation) (w : Workspace) (answer : Except RepoError Answer) :
    Option LogEntry := do
  let id ← Answer.newId answer
  let r ← w.repository
  match op with
  | commit now message author =>
    some ⟨id, message, author, now, r.headId.toList ++ r.mergeHead.toList⟩
  | merge now reference author =>
    some ⟨id, s!"Merge branch '{reference}' into {r.headLabel}", author, now,
      r.headId.toList ++ (r.resolve reference).toOption.toList⟩
  | _ => none

/-- The journal after an operation on `w`, by its answer. -/
def journalAfter (w : Workspace) (op : Operation) (answer : Except RepoError Answer)
    (journal : Journal) : Journal :=
  match op with
  | .clear => []
  | op => (op.entry? w answer).toList ++ journal

/-- A workspace that fresh operations make from the empty one, with the journal that was kept. -/
inductive Journaled : Workspace → Journal → Prop
  | empty : Journaled .empty []
  | step (op : Operation) {w : Workspace} {journal : Journal} (before : Journaled w journal)
      (fresh : op.Fresh w) :
      Journaled (op.perform w).2 (w.journalAfter op (op.perform w).1 journal)

lemma Journaled.reachable (h : Journaled w journal) : Reachable w := by
  induction h with
  | empty => exact .empty
  | step op _ fresh ih => exact ih.step op fresh

lemma reachable_iff_journaled : Reachable w ↔ ∃ journal, Journaled w journal := by
  refine ⟨fun h => ?_, fun ⟨_, h⟩ => h.reachable⟩
  induction h with
  | empty => exact ⟨_, .empty⟩
  | step op _ fresh ih =>
    obtain ⟨journal, h⟩ := ih
    exact ⟨_, h.step op fresh⟩

/-- The workspace and the journal that operations leave, if they are all fresh. -/
def takeDown (w : Workspace) (journal : Journal) : List Operation → Option (Workspace × Journal)
  | [] => some (w, journal)
  | op :: ops =>
    if op.Fresh w then
      takeDown (op.perform w).2 (w.journalAfter op (op.perform w).1 journal) ops
    else none

lemma Journaled.takeDown {journal' : Journal} (h : Journaled w journal) (ops : List Operation)
    (hrun : w.takeDown journal ops = some (w', journal')) : Journaled w' journal' := by
  induction ops generalizing w journal with
  | nil =>
    obtain ⟨rfl, rfl⟩ := Prod.mk.inj (Option.some.inj hrun)
    exact h
  | cons op ops ih =>
    rw [Workspace.takeDown] at hrun
    split at hrun
    · rename_i fresh
      exact ih (h.step op fresh) hrun
    · cases hrun

/-! ### The history is the journal -/

/-- What the repository tells of its commits. -/
def told (w : Workspace) : Journal :=
  match w.repository with
  | none => []
  | some r => r.history.map Commit.entry

lemma told_of (hr : w.repository = some r) : w.told = r.history.map Commit.entry := by
  rw [told, hr]

lemma journalAfter_of_ne {op : Operation} (uncleared : op ≠ .clear)
    (answer : Except RepoError Answer) :
    w.journalAfter op answer journal = (op.entry? w answer).toList ++ journal := by
  unfold journalAfter
  split
  · exact absurd rfl uncleared
  · rfl

lemma told_of_none {op : Operation} {answer : Except RepoError Answer} (uncleared : op ≠ .clear)
    (none : Answer.newId answer = none) (same : w'.told = w.told) :
    w'.told = w.journalAfter op answer w.told := by
  rw [journalAfter_of_ne uncleared, Operation.entry?, none, same]
  rfl

lemma told_of_same {files : Tree} (hr : w.repository = some r)
    (history : r'.history = r.history) : told ⟨files, some r'⟩ = w.told := by
  rw [told_of hr, told_of rfl, history]

lemma told_of_record {files : Tree} (hr : w.repository = some r) {r₁ : Repository} {now : Int64}
    {tree : Tree} {parents : List CommitId} {message : String} {author : Signature} {id : CommitId}
    (recorded : r₁.record now tree parents message author = (id, r'))
    (same : r₁.history = r.history) (hg : r.history.Grown) (fresh : id ∉ r.history.ids) :
    told ⟨files, some r'⟩ = ⟨id, message, author, now, parents⟩ :: w.told := by
  rw [← same] at hg fresh
  obtain ⟨c, rfl, snapshot, rfl⟩ := record_eq hg recorded fresh
  have entry : c.entry = ⟨c.id, message, author, now, parents⟩ := by
    rw [Commit.entry, snapshot]
  rw [told_of hr, told_of rfl, history_advance, List.map_cons, entry, same]

lemma Transition.told {op : Operation} {answer : Except RepoError Answer}
    (ht : Transition w op answer w') (hs : Sound w)
    (fresh : ∀ id ∈ Answer.newId answer, id ∉ w.ids) (uncleared : op ≠ .clear) :
    w'.told = w.journalAfter op answer w.told := by
  cases ht with
  | clear => exact absurd rfl uncleared
  | commit hr _ _ recorded =>
    have hid := not_mem_of_fresh fresh hr rfl
    rw [told_of_record hr recorded rfl (hs _ hr).1.grown hid, journalAfter_of_ne uncleared,
      Operation.entry?, hr]
    rfl
  | @join _ _ _ _ _ _ theirs _ _ _ ready _ _ _ _ _ recorded =>
    have hr := ready.repository
    have hid := not_mem_of_fresh fresh hr rfl
    rw [told_of_record hr recorded rfl (hs _ hr).1.grown hid, journalAfter_of_ne uncleared,
      Operation.entry?, hr]
    simp only [Answer.newId, Option.bind_eq_bind, Option.bind_some, ready.tip, ready.names]
    rfl
  -- All other ways make no commit.
  | start hr _ =>
    refine told_of_none uncleared rfl ?_
    rw [Workspace.told, Workspace.told, hr]
    rfl
  | refused _ => exact told_of_none uncleared rfl rfl
  | write _ _ => exact told_of_none uncleared rfl rfl
  | initialized _ => exact told_of_none uncleared rfl rfl
  | stage hr _ => exact told_of_none uncleared rfl (told_of_same hr rfl)
  | unstage hr _ _ => exact told_of_none uncleared rfl (told_of_same hr rfl)
  | branch hr _ _ _ => exact told_of_none uncleared rfl (told_of_same hr rfl)
  | stay _ _ _ => exact told_of_none uncleared rfl rfl
  | switch hr _ _ _ => exact told_of_none uncleared rfl (told_of_same hr rfl)
  | move hr _ _ _ _ _ => exact told_of_none uncleared rfl (told_of_same hr rfl)
  | upToDate _ _ => exact told_of_none uncleared rfl rfl
  | fastForward ready _ _ _ =>
    exact told_of_none uncleared rfl (told_of_same ready.repository history_advance)
  | conflict ready _ _ _ _ _ _ =>
    exact told_of_none uncleared rfl (told_of_same ready.repository rfl)
  | addRemote hr _ => exact told_of_none uncleared rfl (told_of_same hr rfl)
  | removeRemote hr _ => exact told_of_none uncleared rfl (told_of_same hr rfl)

/-- **The history of a reachable workspace is the journal of its run.** -/
lemma Journaled.told (h : Journaled w journal) : w.told = journal := by
  induction h with
  | empty => rfl
  | @step op w journal before fresh ih =>
    by_cases cleared : op = .clear
    · subst cleared
      rfl
    · rw [(op.transition w).told before.reachable.sound fresh cleared, ih]

/-! ### Logs -/

/-- **A log is the exact history of a commit, in order.** Whatever reference names a commit, the log
tells of exactly the commits that parent links lead to from there, of each once and before its
parents, with the message, the author, the time and the parents that were told when it was made. -/
theorem log_tells_history (hw : Reachable w) {reference : String} {tip : CommitId}
    (names : w.resolve reference = .ok tip) :
    ∃ log, w.log reference = .ok log ∧ (∃ journal, Journaled w journal) ∧
      ∀ journal, Journaled w journal → journal.Tells tip (log.map Commit.entry) := by
  cases hr : w.repository with
  | none =>
    rw [Workspace.resolve, ask, hr] at names
    cases names
  | some r =>
    rw [Workspace.resolve, ask, hr] at names
    have hl := (hw.sound r hr).1
    refine ⟨r.history.log tip, ?_, reachable_iff_journaled.1 hw, fun journal kept => ?_⟩
    · simp only [Workspace.log, ask, hr, names]
    · rw [← kept.told, told_of hr]
      exact Journal.tells_log hl.grown (hl.resolve_mem names)

/-- The commit that ends a merge of `main` into `b`. -/
def joinId : CommitId := ⟨"5dc450d47e0c723b55097e89d2cf069bbf342ecb"⟩

/-- What joins the two branches of `diverged` again. -/
def joining : List Operation :=
  diverging ++ [.merge 0 "main" ⟨"", ""⟩, .write "a" "both\n", .add "a", .commit 5 "4" ⟨"x", "y"⟩]

def joinedJournal : Journal :=
  [⟨joinId, "4", ⟨"x", "y"⟩, 5, [sideId, mainId]⟩, ⟨sideId, "3", ⟨"", ""⟩, 0, [forkId]⟩,
    ⟨mainId, "2", ⟨"", ""⟩, 0, [forkId]⟩, ⟨forkId, "1", ⟨"", ""⟩, 0, []⟩]

lemma takeDown_joining : ∃ w, takeDown .empty [] joining = some (w, joinedJournal) ∧
    w.resolve "HEAD" = .ok joinId := by
  have kept : ∃ out ∈ takeDown .empty [] joining, out.2 = joinedJournal ∧
      out.1.resolve "HEAD" = .ok joinId := by
    decide +kernel
  obtain ⟨⟨w, _⟩, hrun, rfl, names⟩ := kept
  exact ⟨w, hrun, names⟩

/-- The first commit is told of once, although two commits lead to it. -/
theorem log_tells_history_joined :
    ∃ w log, Reachable w ∧ w.resolve "HEAD" = .ok joinId ∧ w.log "HEAD" = .ok log ∧
      Journaled w joinedJournal ∧ joinedJournal.Tells joinId (log.map Commit.entry) := by
  obtain ⟨w, hrun, names⟩ := takeDown_joining
  have kept : Journaled w joinedJournal := Journaled.takeDown .empty joining hrun
  obtain ⟨log, read, -, tells⟩ := log_tells_history kept.reachable names
  exact ⟨w, log, kept.reachable, names, read, kept, tells joinedJournal kept⟩

end Workspace

end GitTutor
