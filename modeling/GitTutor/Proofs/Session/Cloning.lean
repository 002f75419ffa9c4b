import GitTutor.Proofs.Host.Replay
import GitTutor.Proofs.Session.Atomicity

/-!
Cloning the record of the host.

A clone throws the workspace away and then starts a repository on the default branch of the record.
All of this happens or nothing, unless no branch can have the name that the record gives: that is
found out when the workspace is gone already. A host that has made its record itself never gives
such a name.
-/

namespace GitTutor

/-- The repository of a clone has no commits, stands on the branch that the record names, and has
the record as its only remote. -/
structure Repository.ClonedFrom (record : Record) (r : Repository) : Prop where
  history : r.history = []
  branches : r.branches = ∅
  head : r.head = .branch record.defaultBranch
  index : r.index = ∅
  conflicts : r.conflicts = ∅
  mergeHead : r.mergeHead = none
  remotes : r.remotes.entries = [(Host.origin, record.url)]

/-- A clone has a repository and no files. -/
structure Workspace.ClonedFrom (record : Record) (w : Workspace) : Prop where
  files : w.files = ∅
  repository : ∃ r, w.repository = some r ∧ r.ClonedFrom record

namespace Host

variable {h : Host} {url : String} {record : Record}

/-- A url stands for the record if it is that of the record, or its name. -/
def Serves (h : Host) (url : String) (record : Record) : Prop :=
  h.record? = .ok (some record) ∧ (record.url = url ∨ record.name = url)

lemma Serves.unique {record' : Record} (serves : h.Serves url record)
    (serves' : h.Serves url record') : record' = record :=
  Option.some.inj (Except.ok.inj (serves'.1.symm.trans serves.1))

/-- The workspace that a clone of a record makes. -/
def cloneOf (record : Record) : Workspace where
  files := ∅
  repository := some { Repository.start record.defaultBranch with
    remotes := (∅ : Table String).insert origin record.url }

lemma clonedFrom_cloneOf (record : Record) : (cloneOf record).ClonedFrom record :=
  ⟨rfl, _, rfl, rfl, rfl, rfl, rfl, rfl, rfl, rfl⟩

/-! ### The ways in which a clone ends -/

lemma cloneInto_of_unserved (unserved : ¬∃ record, h.Serves url record) (w : Workspace) :
    ∃ e, h.cloneInto w url = (.error e, w) := by
  rw [cloneInto]
  cases stored : h.record? with
  | error e => exact ⟨e, rfl⟩
  | ok found =>
    cases found with
    | none => exact ⟨_, rfl⟩
    | some record =>
      have other : ¬(record.url = url ∨ record.name = url) :=
        fun asked => unserved ⟨record, stored, asked⟩
      exact ⟨.noMatchingRepository url, if_neg other⟩

lemma cloneInto_of_invalid (serves : h.Serves url record)
    (invalid : validBranchName record.defaultBranch = false) (w : Workspace) :
    h.cloneInto w url =
      (.error (.repository (.invalidBranchName record.defaultBranch)), .empty) := by
  have refused : Workspace.empty.init record.defaultBranch =
      (.error (.invalidBranchName record.defaultBranch), .empty) := by
    rw [Workspace.init, Workspace.empty, invalid]
    rfl
  rw [cloneInto, serves.1]
  simp only [serves.2, if_true, refused]

lemma cloneInto_of_valid (serves : h.Serves url record)
    (valid : validBranchName record.defaultBranch = true) (w : Workspace) :
    h.cloneInto w url = (.ok record, cloneOf record) := by
  have started : Workspace.empty.init record.defaultBranch =
      (.ok (), ⟨∅, some (.start record.defaultBranch)⟩) := by
    rw [Workspace.init, Workspace.empty, valid]
    rfl
  have linked : Workspace.addRemote ⟨∅, some (.start record.defaultBranch)⟩ origin record.url =
      (.ok (), cloneOf record) := by
    rw [Workspace.addRemote, Workspace.onRepository]
    rfl
  rw [cloneInto, serves.1]
  simp only [serves.2, if_true, started, linked]

lemma cloneInto_succeeds_iff (h : Host) (w : Workspace) (url : String) :
    (∃ record w', h.cloneInto w url = (.ok record, w')) ↔
      ∃ record, h.Serves url record ∧ validBranchName record.defaultBranch = true := by
  constructor
  · rintro ⟨record, w', done⟩
    by_cases served : ∃ record, h.Serves url record
    · obtain ⟨record', serves⟩ := served
      refine ⟨record', serves, ?_⟩
      by_contra invalid
      rw [cloneInto_of_invalid serves (Bool.eq_false_iff.2 invalid)] at done
      cases done
    · obtain ⟨e, failed⟩ := cloneInto_of_unserved served w
      rw [failed] at done
      cases done
  · rintro ⟨record, serves, valid⟩
    exact ⟨record, _, cloneInto_of_valid serves valid w⟩

/-- A clone makes a workspace of the record that it asks for, or fails and leaves the workspace as
it was. -/
def AllOrNothing (h : Host) (w : Workspace) (url : String) : Prop :=
  match h.cloneInto w url with
  | (.ok record, w') => h.Serves url record ∧ w'.ClonedFrom record
  | (.error _, w') => w' = w

lemma allOrNothing_iff (h : Host) (w : Workspace) (url : String) :
    h.AllOrNothing w url ↔ ¬(w ≠ .empty ∧ h.Unclonable url) := by
  rw [AllOrNothing]
  by_cases served : ∃ record, h.Serves url record
  · obtain ⟨record, serves⟩ := served
    cases valid : validBranchName record.defaultBranch with
    | true =>
      rw [cloneInto_of_valid serves valid]
      refine iff_of_true ⟨serves, clonedFrom_cloneOf record⟩ ?_
      rintro ⟨-, record', stored, asked, invalid⟩
      rw [serves.unique ⟨stored, asked⟩, valid] at invalid
      cases invalid
    | false =>
      rw [cloneInto_of_invalid serves valid]
      have unclonable : h.Unclonable url := ⟨record, serves.1, serves.2, valid⟩
      constructor
      · exact fun same lost => lost.1 same.symm
      · intro calm
        by_contra changed
        exact calm ⟨Ne.symm changed, unclonable⟩
  · obtain ⟨e, failed⟩ := cloneInto_of_unserved served w
    rw [failed]
    refine iff_of_true rfl ?_
    rintro ⟨-, record, stored, asked, -⟩
    exact served ⟨record, stored, asked⟩

end Host

lemma Trace.allOrNothing_after {store : Store} (fresh : store.medium.load = .ok none)
    (steps : List Step) (url : String) :
    let w := ((Trace.start .empty store).after steps).world
    w.host.AllOrNothing w.workspace url := by
  intro w
  rw [Host.allOrNothing_iff]
  rintro ⟨-, record, stored, -, invalid⟩
  have loaded : w.host.require = .ok record := by
    rw [Host.require, stored]
  obtain ⟨name, since, -, replays⟩ := (Trace.faithful_after fresh steps).replays loaded
  rw [replays.defaultBranch] at invalid
  exact absurd invalid (by decide +kernel)

namespace Session

/-- **A clone is all or nothing, unless the record has an impossible default branch.** It changes
the workspace alone, and it succeeds exactly if the url stands for the record and the default
branch of that has a valid name. A clone that neither succeeds as a whole nor leaves the workspace
as it was has asked for a record without such a name, in a workspace that was not empty. -/
theorem clone_all_or_nothing_iff (s : Session) (url : String) :
    (s.clone url).2 = { s with workspace := (s.host.cloneInto s.workspace url).2 } ∧
      ((∃ record w, s.host.cloneInto s.workspace url = (.ok record, w)) ↔
        ∃ record, s.host.Serves url record ∧ validBranchName record.defaultBranch = true) ∧
      (s.host.AllOrNothing s.workspace url ↔
        ¬(s.workspace ≠ .empty ∧ s.host.Unclonable url)) := by
  refine ⟨?_, s.host.cloneInto_succeeds_iff s.workspace url,
    s.host.allOrNothing_iff s.workspace url⟩
  rw [clone]
  obtain ⟨answer, w⟩ := s.host.cloneInto s.workspace url
  cases answer <;> rfl

/-- A file next to a record whose default branch has a name with a blank in it. -/
def misnamed : Session where
  activity := none
  workspace := Workspace.empty.write "a" "x\n"
  host := .new ⟨.memory (some { Record.new "demo" with defaultBranch := "a b" }), .none⟩
  hints := .empty
  author := ⟨"", ""⟩

/-- The clone fails, and the file is gone. -/
theorem not_clones_all_or_nothing :
    ¬∀ (s : Session) (url : String), s.host.AllOrNothing s.workspace url := by
  intro h
  have lost : misnamed.host.cloneInto misnamed.workspace "demo" =
      (.error (.repository (.invalidBranchName "a b")), .empty) := by
    decide +kernel
  have key := h misnamed "demo"
  rw [Host.AllOrNothing, lost] at key
  exact absurd key (by decide +kernel)

end Session

end GitTutor
