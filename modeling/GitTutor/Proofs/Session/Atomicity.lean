import GitTutor.Proofs.Session.Gate
import GitTutor.Proofs.Workspace.Integrity

/-!
What a failed line leaves behind.

A merge that stops leaves its conflicts. Any other failure leaves the workspace, the record and
the hints as they were, with two exceptions (`Session.Halfway`), in which the first of two steps
has been made when the second is refused.
-/

namespace GitTutor

/-- Whether a command failed on a merge that stopped. -/
def CommandError.isMergeConflict : CommandError → Bool
  | repository _ e => e.isMergeConflict
  | _ => false

/-! ### Failures of the host -/

namespace Host

variable {h h' : Host} {e : HostError}

lemma keep_error {α : Type} {record : Record} {answer : α}
    (failed : h.keep record answer = (.error e, h')) : h' = h := by
  unfold keep at failed
  split at failed
  · cases failed
  · exact (Prod.mk.inj failed).2.symm

lemma push_error {w : Workspace} {remote branch : String}
    (failed : h.push w remote branch = (.error e, h')) : h' = h := by
  unfold push at failed
  split at failed
  · exact (Prod.mk.inj failed).2.symm
  split at failed
  · exact (Prod.mk.inj failed).2.symm
  split at failed
  · exact (Prod.mk.inj failed).2.symm
  · exact keep_error failed

/-- The id of a pull request is counted even where its record could not be kept. -/
lemma openRequest_error {source : String} {target title : Option String}
    (failed : h.openRequest source target title = (.error e, h')) : h'.store = h.store := by
  unfold openRequest at failed
  split at failed
  · rw [← (Prod.mk.inj failed).2]
  · rw [keep_error failed]

lemma mergeRequest_error {id : UInt64} (failed : h.mergeRequest id = (.error e, h')) :
    h' = h := by
  unfold mergeRequest at failed
  split at failed
  · exact (Prod.mk.inj failed).2.symm
  split at failed
  · exact (Prod.mk.inj failed).2.symm
  · exact keep_error failed

lemma publish_error (failed : h.publish = (.error e, h')) : h' = h := by
  unfold publish at failed
  split at failed
  · exact (Prod.mk.inj failed).2.symm
  split at failed
  · exact (Prod.mk.inj failed).2.symm
  · exact keep_error failed

/-- The record that a clone asks for has a default branch that no branch can be. -/
def Unclonable (h : Host) (url : String) : Prop :=
  ∃ record, h.record? = .ok (some record) ∧ (record.url = url ∨ record.name = url) ∧
    validBranchName record.defaultBranch = false

/-- A clone fails before it does anything, or when the workspace is cleared already. -/
lemma cloneInto_error {w w' : Workspace} {url : String}
    (failed : h.cloneInto w url = (.error e, w')) :
    (w' = w ∧ ¬h.Unclonable url) ∨ (w' = .empty ∧ h.Unclonable url) := by
  unfold cloneInto at failed
  by_cases garbled : h.Unclonable url
  · obtain ⟨record, hrec, asked, invalid⟩ := id garbled
    simp only [hrec, asked, if_true, Workspace.init, Workspace.empty, invalid, Bool.false_eq_true,
      if_false] at failed
    exact .inr ⟨(Prod.mk.inj failed).2.symm, garbled⟩
  refine .inl ⟨?_, garbled⟩
  split at failed
  · exact (Prod.mk.inj failed).2.symm
  · exact (Prod.mk.inj failed).2.symm
  · rename_i record hrec
    split at failed
    · rename_i asked
      have valid : validBranchName record.defaultBranch = true := by
        by_contra invalid
        exact garbled ⟨record, hrec, asked, Bool.eq_false_iff.2 invalid⟩
      -- The new repository has no remote yet, so that the clone succeeds.
      simp [Workspace.init, Workspace.empty, valid, Workspace.addRemote,
        Workspace.onRepository, Repository.start] at failed
    · exact (Prod.mk.inj failed).2.symm

end Host

namespace Workspace

lemma createBranch_ok {w : Workspace} {r : Repository} {name : String} {id : CommitId}
    (hr : w.repository = some r) (valid : validBranchName name = true)
    (new : r.branches.contains name = false) (tip : r.headId = some id) :
    w.createBranch name =
      (.ok (), ⟨w.files, some { r with branches := r.branches.insert name id }⟩) := by
  simp [createBranch, onRepository, hr, valid, new, tip]

lemma checkout_insert_tip (files : Tree) {r : Repository} (name : String) {id : CommitId}
    (tip : r.headId = some id) (calm : r.conflicts = ∅) :
    ∃ w', checkout ⟨files, some { r with branches := r.branches.insert name id }⟩ name =
      (.ok (), w') := by
  have goal : { r with branches := r.branches.insert name id }.destination name =
      .ok (.commit (.branch name) id) := by
    simp [Repository.destination]
  have empty : r.conflicts.isEmpty = true := Table.isEmpty_iff.2 calm
  refine ⟨⟨files, some { r with branches := r.branches.insert name id, head := .branch name }⟩, ?_⟩
  simp [checkout, onRepository, empty, goal, Repository.headId_insert_tip tip]

lemma checkout_error {w w' : Workspace} {reference : String} {cause : RepoError}
    (failed : w.checkout reference = (.error cause, w')) : w' = w := by
  have ht := (Operation.checkout reference).transition w
  rw [Operation.perform, failed] at ht
  cases ht with
  | refused _ => rfl

end Workspace

namespace Session

variable {s s' : Session} {e : CommandError}

/-- The workspace, the record and the hints that have been shown are the same. -/
structure Untouched (s s' : Session) : Prop where
  workspace : s'.workspace = s.workspace
  store : s'.host.store = s.host.store
  hints : s'.hints = s.hints

/-! ### Parts of commands -/

lemma cause_of_attempt {α : Type} {what : Attempt} {result : Except RepoError α × Workspace}
    {reply : α → String} (failed : s.attempt what result reply = (.error e, s')) :
    ∃ cause w, result = (.error cause, w) ∧ e = .repository what cause ∧
      s' = { s with workspace := w } := by
  obtain ⟨result, w⟩ := result
  cases result with
  | ok a => cases failed
  | error cause =>
    obtain ⟨he, hs⟩ := Prod.mk.inj failed
    exact ⟨cause, w, rfl, (Except.error.inj he).symm, hs.symm⟩

lemma attempt_error {α : Type} (op : Workspace.Operation) {answer : α → Workspace.Answer}
    {what : Attempt} {result : Except RepoError α × Workspace} {reply : α → String}
    (hop : op.perform s.workspace = Workspace.Answer.wrap answer result)
    (failed : s.attempt what result reply = (.error e, s')) (plain : e.isMergeConflict = false) :
    s.Untouched s' := by
  obtain ⟨cause, w, rfl, rfl, rfl⟩ := cause_of_attempt failed
  rw [Workspace.Answer.wrap] at hop
  exact ⟨Workspace.Operation.unchanged_of_error hop plain, rfl, rfl⟩

lemma ask_error {α : Type} {what : Attempt} {result : Except RepoError α} {reply : α → String}
    (failed : s.ask what result reply = (.error e, s')) : s.Untouched s' := by
  obtain ⟨cause, w, hresult, -, rfl⟩ := cause_of_attempt failed
  exact ⟨(Prod.mk.inj hresult).2.symm, rfl, rfl⟩

lemma request_error {α : Type} {result : Except HostError α × Host} {reply : α → String}
    (failed : s.request result reply = (.error e, s'))
    (kept : ∀ {cause h}, result = (.error cause, h) → h.store = s.host.store) :
    s.Untouched s' := by
  obtain ⟨result, h⟩ := result
  cases result with
  | ok a => cases failed
  | error cause =>
    rw [request, Prod.mk.injEq] at failed
    obtain ⟨-, rfl⟩ := failed
    exact ⟨rfl, kept rfl, rfl⟩

lemma askHost_error {α : Type} {result : Except HostError α} {reply : α → String}
    (failed : s.askHost result reply = (.error e, s')) : s.Untouched s' :=
  request_error failed fun h => by rw [(Prod.mk.inj h).2]

/-! ### Commands of two steps -/

/-- Whether a command that fails has changed something by then: a new branch that cannot be
switched to because of conflicts, or a clone that has cleared the workspace for a record that no
repository can start from. -/
def Halfway (s : Session) : Command → Prop
  | .checkoutNew name => ∃ r, s.workspace.repository = some r ∧ r.conflicts ≠ ∅ ∧
      validBranchName name = true ∧ r.branches.contains name = false ∧ r.headId ≠ none
  | .clone url => s.workspace ≠ .empty ∧ s.host.Unclonable url
  | _ => False

lemma checkoutNew_error {name : String} (failed : s.checkoutNew name = (.error e, s')) :
    s.Untouched s' ↔ ¬s.Halfway (.checkoutNew name) := by
  unfold checkoutNew at failed
  have hcreate := (Workspace.Operation.createBranch name).transition s.workspace
  rw [Workspace.Operation.perform] at hcreate
  cases heq : s.workspace.createBranch name with
  | mk result w =>
    rw [heq] at failed hcreate
    cases result with
    | error cause =>
      obtain ⟨-, rfl⟩ := Prod.mk.inj failed
      cases hcreate with
      | refused _ =>
        refine iff_of_true ⟨rfl, rfl, rfl⟩ ?_
        rintro ⟨r, hr, -, valid, new, born⟩
        obtain ⟨id, tip⟩ := Option.ne_none_iff_exists'.1 born
        rw [Workspace.createBranch_ok hr valid new tip] at heq
        cases heq
    | ok =>
      cases hcreate with
      | branch hr valid new tip =>
        -- The branch is there, so that all depends on whether the switch is refused.
        refine iff_of_false ?_ (not_not.2 ⟨_, hr, ?_, valid, new, by simp [tip]⟩)
        · intro same
          obtain ⟨cause, w, hswitch, -, rfl⟩ := cause_of_attempt failed
          have hrepository := congrArg (·.repository) same.workspace
          simp only [Workspace.checkout_error hswitch, hr, Option.some.injEq] at hrepository
          rw [← hrepository] at new
          simp at new
        · intro calm
          obtain ⟨w', hswitch⟩ := Workspace.checkout_insert_tip s.workspace.files name tip calm
          simp only [hswitch] at failed
          cases failed

lemma clone_error {url : String} (failed : s.clone url = (.error e, s')) :
    s.Untouched s' ↔ ¬s.Halfway (.clone url) := by
  unfold clone at failed
  cases hclone : s.host.cloneInto s.workspace url with
  | mk result w =>
    rw [hclone] at failed
    cases result with
    | ok record => cases failed
    | error cause =>
      obtain ⟨-, rfl⟩ := Prod.mk.inj failed
      rcases Host.cloneInto_error hclone with ⟨rfl, hno⟩ | ⟨rfl, hun⟩
      · exact iff_of_true ⟨rfl, rfl, rfl⟩ fun h => hno h.2
      · constructor
        · exact fun h hhalf => hhalf.1 h.workspace.symm
        · intro hhalf
          have hempty : s.workspace = .empty := by
            by_contra hne
            exact hhalf ⟨hne, hun⟩
          exact ⟨hempty.symm, rfl, rfl⟩

/-! ### Commands and lines -/

lemma touch_ok (file : String) : ∃ reply s', s.touch file = (.ok reply, s') := by
  unfold touch
  split <;> exact ⟨_, _, rfl⟩

/-- Apart from the two commands of two steps, a command that fails has changed nothing. -/
lemma untouched_of_perform {now : Int64} {c : Command} (failed : s.perform now c = (.error e, s'))
    (plain : e.isMergeConflict = false) (other : ∀ name, c ≠ .checkoutNew name)
    (other' : ∀ url, c ≠ .clone url) : s.Untouched s' := by
  cases c with
  | checkoutNew name => exact absurd rfl (other name)
  | clone url => exact absurd rfl (other' url)
  -- Some commands never fail, and one does nothing else.
  | help => cases failed
  | ls => cases failed
  | cat file => cases failed
  | touch file =>
    obtain ⟨reply, s'', hok⟩ := s.touch_ok file
    rw [perform, hok] at failed
    cases failed
  | pwd => cases failed
  | conflicts => cases failed
  | addAll => exact (Prod.mk.inj failed).2 ▸ ⟨rfl, rfl, rfl⟩
  -- Questions and operations on the workspace.
  | status => exact ask_error failed
  | log reference => exact ask_error failed
  | branches => exact ask_error failed
  | remotes verbose => exact ask_error failed
  | init => exact attempt_error (.init Reply.defaultBranch) rfl failed plain
  | add file => exact attempt_error (.add file) rfl failed plain
  | commit message => exact attempt_error (.commit now message s.author) rfl failed plain
  | branch name => exact attempt_error (.createBranch name) rfl failed plain
  | checkout branch => exact attempt_error (.checkout branch) rfl failed plain
  | checkoutCommit id => exact attempt_error (.checkout id) rfl failed plain
  | merge branch => exact attempt_error (.merge now branch s.author) rfl failed plain
  | remoteAdd name url => exact attempt_error (.addRemote name url) rfl failed plain
  | remoteRemove name => exact attempt_error (.removeRemote name) rfl failed plain
  -- Questions and operations on the host.
  | pull remote branch => exact askHost_error failed
  | hostStatus => exact askHost_error failed
  | requests => exact askHost_error failed
  | push remote branch => exact request_error failed fun h => by rw [Host.push_error h]
  | publish => exact request_error failed fun h => by rw [Host.publish_error h]
  | republish => exact request_error failed fun h => by rw [Host.publish_error h]
  | hostCreate name => exact request_error failed fun h => by rw [Host.keep_error h]
  | requestCreate source target title => exact request_error failed Host.openRequest_error
  | requestMerge id => exact request_error failed fun h => by rw [Host.mergeRequest_error h]

lemma perform_error {now : Int64} {c : Command} (failed : s.perform now c = (.error e, s'))
    (plain : e.isMergeConflict = false) : s.Untouched s' ↔ ¬s.Halfway c := by
  cases c with
  | checkoutNew name => exact checkoutNew_error failed
  | clone url => exact clone_error failed
  | _ => exact iff_of_true (untouched_of_perform failed plain (by simp) (by simp)) id

lemma withHint_error {c : Command} {outcome : Outcome}
    (failed : withHint c outcome = (.error e, s')) : outcome = (.error e, s') := by
  obtain ⟨result, s⟩ := outcome
  cases result with
  | error e => exact failed
  | ok reply =>
    rw [withHint] at failed
    split at failed <;> cases failed

lemma execute_error {now : Int64} {c : Command} (failed : s.execute now c = (.error e, s'))
    (plain : e.isMergeConflict = false) : s.Untouched s' ↔ ¬s.Halfway c := by
  unfold execute at failed
  split at failed
  · rename_i bare
    rw [Bool.and_eq_true, Bool.not_eq_true'] at bare
    obtain ⟨-, rfl⟩ := Prod.mk.inj failed
    refine iff_of_true ⟨rfl, rfl, rfl⟩ fun halfway => ?_
    cases c with
    | checkoutNew name =>
      obtain ⟨r, hr, -⟩ := halfway
      rw [Workspace.isInitialized, hr] at bare
      cases bare.2
    | clone url => cases bare.1
    | _ => exact halfway
  · exact perform_error (withHint_error failed) plain

/-! ### Calls -/

/-- What a session can be asked for. -/
inductive Call where
  | select (activity : Option Activity)
  | write (path content : String)
  | line (now : Int64) (text : String)

def Call.perform (s : Session) : Call → Session
  | select activity => (s.select activity).2
  | write path content => s.write path content
  | line now text => (s.run now text).2

/-- The session that calls leave. -/
def after (s : Session) (calls : List Call) : Session := calls.foldl Call.perform s

lemma after_append (s : Session) (calls calls' : List Call) :
    s.after (calls ++ calls') = (s.after calls).after calls' :=
  List.foldl_append

/-- Changes of the file `a` in the branches `main` and `b`. -/
def divergingCalls : List Call :=
  [.line 0 "git init", .write "a" "x\n", .line 0 "git add a", .line 0 "git commit -m 1",
    .line 0 "git branch b", .write "a" "y\n", .write "n" "n\n", .line 0 "git add a",
    .line 0 "git add n", .line 0 "git commit -m 2", .line 0 "git checkout b",
    .write "a" "z\n", .line 0 "git add a", .line 0 "git commit -m 3"]

/-- The session whose two branches have gone different ways. -/
def diverged : Session :=
  { Session.new .inMemory ⟨"", ""⟩ with
    workspace := Workspace.diverged
    hints := ⟨["checkout", "branch", "commit", "add", "init"]⟩ }

/-- The session after a merge of the two has stopped. -/
def halted : Session := (diverged.run 0 "git merge main").2

lemma after_divergingCalls : (Session.new .inMemory ⟨"", ""⟩).after divergingCalls = diverged := by
  decide +kernel

lemma halted_checkoutNew :
    (halted.run 0 "git checkout -b topic").1 =
        .error (.repository (.switch "topic") (.unresolvedConflicts ["a"])) ∧
      (halted.run 0 "git checkout -b topic").2.workspace ≠ halted.workspace := by
  decide +kernel

/-! ### Failed lines -/

/-- **A failed line changes nothing, with two exceptions.** When a line fails on anything but a
merge that stopped, the workspace, the record and the hints are the same as before exactly if the
line is not read as a command that is allowed and caught halfway. -/
theorem failed_line_untouched_iff {now : Int64} {line : String}
    (failed : s.run now line = (.error e, s')) (plain : e.isMergeConflict = false) :
    s.Untouched s' ↔ ¬∃ c, Command.ofLine line = .ok (some c) ∧
      Activity.allows s.activity c.key = true ∧ s.Halfway c := by
  unfold run at failed
  cases hread : Command.ofLine line with
  | error cause =>
    rw [hread] at failed
    obtain ⟨-, rfl⟩ := Prod.mk.inj failed
    exact iff_of_true ⟨rfl, rfl, rfl⟩ (by simp)
  | ok read =>
    cases read with
    | none =>
      rw [hread] at failed
      cases failed
    | some c =>
      simp only [hread, Command.keyOfLine_eq hread] at failed
      split at failed
      · rename_i allowed
        rw [execute_error failed plain]
        simp [allowed]
      · rename_i blocked
        obtain ⟨-, rfl⟩ := Prod.mk.inj failed
        exact iff_of_true ⟨rfl, rfl, rfl⟩ (by simp [blocked])

theorem failed_line_untouched_iff_halted :
    halted.Untouched (halted.run 0 "git checkout -b topic").2 ↔
      ¬∃ c, Command.ofLine "git checkout -b topic" = .ok (some c) ∧
        Activity.allows halted.activity c.key = true ∧ halted.Halfway c :=
  failed_line_untouched_iff (Prod.ext halted_checkoutNew.1 rfl) rfl

/-- Among the sessions that calls leave, over a store that never fails, one is changed by a line
that fails. -/
theorem not_failed_lines_untouched :
    ¬∀ (store : Store) (author : Signature) (calls : List Call) (now : Int64) (line : String)
      (e : CommandError) (s' : Session), store.faults = .none →
      ((Session.new store author).after calls).run now line = (.error e, s') →
      e.isMergeConflict = false → ((Session.new store author).after calls).Untouched s' := by
  intro h
  have key := h .inMemory ⟨"", ""⟩ (divergingCalls ++ [.line 0 "git merge main"])
    0 "git checkout -b topic" (.repository (.switch "topic") (.unresolvedConflicts ["a"]))
    (halted.run 0 "git checkout -b topic").2 rfl
  rw [after_append, after_divergingCalls] at key
  exact halted_checkoutNew.2 (key (Prod.ext halted_checkoutNew.1 rfl) rfl).workspace

end Session

end GitTutor
