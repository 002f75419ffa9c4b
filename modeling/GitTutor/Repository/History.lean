import GitTutor.Repository.Commit

/-!
Histories: the commits of a repository, the newest first.

A history holds one commit an id, and a commit that is recorded anew moves to the front. The
ancestors of a commit are found in rounds. A round walks once from the newest commit to the
oldest, which is enough where every commit is newer than its parents; the rounds go on over the
commits that were passed by until one of them finds nothing.
-/

namespace GitTutor

/-- Whether one commit stands before another: it is newer, or of one number and the lesser id. -/
def Commit.precedes (a b : Commit) : Bool :=
  b.seq < a.seq || (a.seq = b.seq && a.id.hex < b.id.hex)

abbrev History := List Commit

namespace History

def find? (h : History) (id : CommitId) : Option Commit := List.find? (fun c => c.id = id) h

def ids (h : History) : List CommitId := h.map (·.id)

/-- Puts a commit into its place; it replaces the one of its id. -/
def insert (h : History) (c : Commit) : History :=
  let others := h.filter (·.id ≠ c.id)
  others.takeWhile (·.precedes c) ++ c :: others.dropWhile (·.precedes c)

theorem insert_eq_cons {h : History} {c : Commit} (fresh : ∀ x ∈ h, x.id ≠ c.id)
    (newest : ∀ x ∈ h, x.seq < c.seq) : h.insert c = c :: h := by
  have others : h.filter (·.id ≠ c.id) = h := List.filter_eq_self.2 (by simpa using fresh)
  simp only [insert, others]
  cases h with
  | nil => rfl
  | cons a r =>
    have := newest a (by simp)
    have : a.precedes c = false := by
      simp only [Commit.precedes, Bool.or_eq_false_iff, Bool.and_eq_false_iff,
        decide_eq_false_iff_not]
      omega
    simp [this]

/-! ### Ancestors -/

/-- One round: the wanted ids with the parents of all commits that they lead to on the way, and
the commits that nothing on the way has named. -/
def walk : List Commit → List CommitId → List CommitId × List Commit
  | [], wanted => (wanted, [])
  | c :: older, wanted =>
    if c.id ∈ wanted then walk older (c.parents ++ wanted)
    else
      let (wanted, passed) := walk older wanted
      (wanted, c :: passed)

/-- At most `rounds` rounds, each over the commits that the one before has passed by. -/
def closure : Nat → List Commit → List CommitId → List CommitId
  | 0, _, wanted => wanted
  | rounds + 1, h, wanted =>
    let (found, passed) := walk h wanted
    if passed.length = h.length then wanted else closure rounds passed found

/-- The ids of a commit and of everything that it leads to. -/
def ancestors (h : History) (id : CommitId) : List CommitId := closure h.length h [id]

/-- A commit and everything that it leads to, the newest first. -/
def log (h : History) (id : CommitId) : List Commit :=
  let found := h.ancestors id
  h.filter (·.id ∈ found)

/-! ### Common ancestors -/

/-- The newest commit of a history; of several of one number, the one with the greatest id. -/
def newest? : History → Option Commit
  | [] => none
  | c :: older => some ((older.takeWhile (·.seq = c.seq)).getLastD c)

/-- The newest commit that two commits both lead to. -/
def mergeBase (h : History) (a b : CommitId) : Option CommitId :=
  let ours := h.ancestors a
  let theirs := h.ancestors b
  (newest? (h.filter fun c => c.id ∈ ours ∧ c.id ∈ theirs)).map (·.id)

end History

end GitTutor
