import GitTutor.Proofs.Host.Agreement
import GitTutor.Proofs.Session.Atomicity

/-!
Changing to another activity.

A change that succeeds leaves nothing of the past but the author: from then on the session cannot
be told from a new one, whatever is asked of either. A change that fails comes too late to leave the
session as it was, since files, repository and hints are thrown away before the record.
-/

namespace GitTutor

lemma Check.lacking_agrees {h k : Host} (agrees : h.Agrees k) (c : Check) (w : Workspace) :
    c.lacking w k = c.lacking w h := by
  rw [lacking, lacking, agrees.record?]

namespace Session

/-! ### Sessions over hosts that agree -/

/-- The sessions differ at most in how their records are kept. -/
structure Agrees (s t : Session) : Prop where
  activity : t.activity = s.activity
  workspace : t.workspace = s.workspace
  host : s.host.Agrees t.host
  hints : t.hints = s.hints
  author : t.author = s.author

lemma Agrees.exists_host {s t : Session} (agrees : s.Agrees t) :
    ∃ k, s.host.Agrees k ∧ t = { s with host := k } := by
  obtain ⟨activity, workspace, host, hints, author⟩ := t
  obtain ⟨rfl, rfl, hosts, rfl, rfl⟩ := agrees
  exact ⟨host, hosts, rfl⟩

section

variable {α : Type} {s : Session} {k : Host}

lemma agrees_host (hosts : s.host.Agrees k) : s.Agrees { s with host := k } :=
  ⟨rfl, rfl, hosts, rfl, rfl⟩

/-! ### Commands -/

lemma alike_attempt (hosts : s.host.Agrees k) (what : Attempt)
    (result : Except RepoError α × Workspace) (reply : α → String) :
    Alike Agrees (s.attempt what result reply)
      (({ s with host := k }).attempt what result reply) := by
  obtain ⟨answer, workspace⟩ := result
  cases answer <;> exact ⟨rfl, agrees_host hosts⟩

lemma alike_request {a b : Except HostError α × Host} (alike : Alike Host.Agrees a b)
    (reply : α → String) :
    Alike Agrees (s.request a reply) (({ s with host := k }).request b reply) := by
  obtain ⟨answer, host⟩ := a
  obtain ⟨answer', host'⟩ := b
  obtain ⟨same, hosts⟩ := alike
  obtain rfl : answer' = answer := same
  cases answer' <;> exact ⟨rfl, agrees_host hosts⟩

lemma alike_checkoutNew (hosts : s.host.Agrees k) (name : String) :
    Alike Agrees (s.checkoutNew name) (({ s with host := k }).checkoutNew name) := by
  unfold checkoutNew
  simp only
  obtain ⟨created, workspace⟩ := s.workspace.createBranch name
  cases created with
  | error e => exact ⟨rfl, agrees_host hosts⟩
  | ok => exact alike_attempt hosts _ _ _

lemma alike_clone (hosts : s.host.Agrees k) (url : String) :
    Alike Agrees (s.clone url) (({ s with host := k }).clone url) := by
  rw [clone, clone, hosts.cloneInto]
  obtain ⟨cloned, workspace⟩ := s.host.cloneInto s.workspace url
  cases cloned <;> exact ⟨rfl, agrees_host hosts⟩

lemma alike_perform (hosts : s.host.Agrees k) (now : Int64) (c : Command) :
    Alike Agrees (s.perform now c) (({ s with host := k }).perform now c) := by
  have same := agrees_host hosts
  cases c with
  -- Commands that leave the session alone.
  | help => exact ⟨rfl, same⟩
  | ls => exact ⟨rfl, same⟩
  | cat file => exact ⟨rfl, same⟩
  | pwd => exact ⟨rfl, same⟩
  | addAll => exact ⟨rfl, same⟩
  | conflicts => exact ⟨rfl, same⟩
  -- Questions and operations on the workspace.
  | status => exact alike_attempt hosts _ _ _
  | log reference => exact alike_attempt hosts _ _ _
  | branches => exact alike_attempt hosts _ _ _
  | remotes verbose => exact alike_attempt hosts _ _ _
  | init => exact alike_attempt hosts _ _ _
  | add file => exact alike_attempt hosts _ _ _
  | commit message => exact alike_attempt hosts _ _ _
  | branch name => exact alike_attempt hosts _ _ _
  | checkout branch => exact alike_attempt hosts _ _ _
  | checkoutCommit id => exact alike_attempt hosts _ _ _
  | checkoutNew name => exact alike_checkoutNew hosts name
  | merge theirs => exact alike_attempt hosts _ _ _
  | remoteAdd name url => exact alike_attempt hosts _ _ _
  | remoteRemove name => exact alike_attempt hosts _ _ _
  | touch file =>
    rw [perform, perform, touch, touch]
    by_cases present : s.workspace.fileExists file = true
    · rw [if_pos present, if_pos present]
      exact ⟨rfl, same⟩
    · rw [if_neg present, if_neg present]
      exact ⟨rfl, agrees_host hosts⟩
  -- Questions and operations on the host.
  | push remote branch => exact alike_request (hosts.push _ _ _) _
  | pull remote branch => exact alike_request ⟨hosts.pull _ _ _, hosts⟩ _
  | clone url => exact alike_clone hosts url
  | publish => exact alike_request hosts.publish _
  | republish => exact alike_request hosts.publish _
  | hostCreate name => exact alike_request (hosts.keep _ _) _
  | hostStatus => exact alike_request ⟨hosts.status, hosts⟩ _
  | requestCreate source target title => exact alike_request (hosts.openRequest _ _ _) _
  | requests => exact alike_request ⟨hosts.requests, hosts⟩ _
  | requestMerge id => exact alike_request (hosts.mergeRequest _) _

lemma alike_withHint {a b : Outcome} (alike : Alike Agrees a b) (c : Command) :
    Alike Agrees (withHint c a) (withHint c b) := by
  obtain ⟨answer, t⟩ := a
  obtain ⟨answer', t'⟩ := b
  obtain ⟨same, agrees⟩ := alike
  obtain rfl : answer' = answer := same
  cases answer' with
  | error e => exact ⟨rfl, agrees⟩
  | ok reply =>
    rw [withHint, withHint]
    cases c.hint? with
    | none => exact ⟨rfl, agrees⟩
    | some hint =>
      obtain ⟨k, hosts, rfl⟩ := agrees.exists_host
      exact ⟨rfl, agrees_host hosts⟩

lemma alike_execute (hosts : s.host.Agrees k) (now : Int64) (c : Command) :
    Alike Agrees (s.execute now c) (({ s with host := k }).execute now c) := by
  rw [execute, execute]
  by_cases bare : (c.needsRepository && !s.workspace.isInitialized) = true
  · rw [if_pos bare, if_pos bare]
    exact ⟨rfl, agrees_host hosts⟩
  · rw [if_neg bare, if_neg bare]
    exact alike_withHint (alike_perform hosts now c) c

/-! ### Lines, missions and changes of the activity -/

lemma alike_run (hosts : s.host.Agrees k) (now : Int64) (line : String) :
    Alike Agrees (s.run now line) (({ s with host := k }).run now line) := by
  have same := agrees_host hosts
  rw [run, run]
  cases Command.ofLine line with
  | error e => exact ⟨rfl, same⟩
  | ok read =>
    cases read with
    | none => exact ⟨rfl, same⟩
    | some c =>
      simp only
      cases Command.keyOfLine line with
      | none => exact alike_execute hosts now c
      | some key =>
        simp only
        cases Activity.allows s.activity key with
        | true => exact alike_execute hosts now c
        | false => exact ⟨rfl, same⟩

lemma alike_answer (hosts : s.host.Agrees k) (now : Int64) (line : String) :
    Alike Agrees (s.answer now line) (({ s with host := k }).answer now line) := by
  obtain ⟨same, next⟩ := alike_run hosts now line
  rw [answer, answer]
  generalize s.run now line = a at same next
  generalize ({ s with host := k }).run now line = b at same next
  obtain ⟨result, t⟩ := a
  obtain ⟨result', t'⟩ := b
  obtain rfl : result' = result := same
  cases result' <;> exact ⟨rfl, next⟩

lemma missions_agrees (hosts : s.host.Agrees k) :
    ({ s with host := k }).missions = s.missions := by
  simp only [missions, Check.lacking_agrees hosts]

end

/-! ### Changes of the activity -/

/-- The files that an activity starts with. -/
def seeded (activity : Option Activity) : Workspace :=
  ((activity.map (·.seeds)).getD []).foldl (fun w seed => w.write seed.path seed.content) .empty

/-- The session at the start of an activity. -/
def restarted (s : Session) (activity : Option Activity) : Session where
  activity := activity
  workspace := seeded activity
  host := s.host.cleared
  hints := .empty
  author := s.author

/-- The session without files, repository and hints. -/
def stripped (s : Session) : Session := { s with workspace := .empty, hints := .empty }

lemma select_eq (s : Session) (activity : Option Activity) :
    s.select activity =
      if s.host.store.faults.clear then (.error (.store (.failed "clear")), s.stripped)
      else (.ok (), s.restarted activity) := by
  rw [select]
  simp only [Host.reset_eq]
  cases s.host.store.faults.clear <;> rfl

lemma select_of_works {s : Session} (works : s.host.store.faults.clear = false)
    (activity : Option Activity) : s.select activity = (.ok (), s.restarted activity) := by
  rw [select_eq, works]
  rfl

lemma works_of_select {s : Session} {activity : Option Activity}
    (done : (s.select activity).1 = .ok ()) : s.host.store.faults.clear = false := by
  by_contra fails
  rw [Bool.not_eq_false] at fails
  rw [select_eq, if_pos fails] at done
  cases done

/-- Of the past, the start of an activity has only the author and the calls that fail. -/
lemma restarted_agrees {s t : Session} (author : t.author = s.author)
    (faults : t.host.store.faults = s.host.store.faults) (activity : Option Activity) :
    (s.restarted activity).Agrees (t.restarted activity) :=
  ⟨rfl, rfl, ⟨Store.agrees_emptied faults, rfl⟩, rfl, author⟩

lemma alike_select {s : Session} {k : Host} (hosts : s.host.Agrees k)
    (activity : Option Activity) :
    Alike Agrees (s.select activity) (({ s with host := k }).select activity) := by
  have fresh : (s.restarted activity).Agrees (({ s with host := k }).restarted activity) :=
    restarted_agrees (by rfl) hosts.store.faults activity
  rw [select_eq, select_eq, hosts.store.faults]
  cases s.host.store.faults.clear with
  | true => exact ⟨rfl, agrees_host hosts⟩
  | false => exact ⟨rfl, fresh⟩

/-! ### Conversations -/

/-- What a session can be asked for, and changes of the calls of its store that fail. -/
inductive Input where
  | call (c : Call)
  | missions
  | faults (faults : Faults)

inductive Output where
  | reply (text : String)
  | selected (result : Except HostError Unit)
  | verdicts (missions : List (Mission × List String))
  | silent

def respond (s : Session) : Input → Output × Session
  | .call (.line now text) => (.reply (s.answer now text).1, (s.answer now text).2)
  | .call (.write path content) => (.silent, s.write path content)
  | .call (.select activity) => (.selected (s.select activity).1, (s.select activity).2)
  | .missions => (.verdicts s.missions, s)
  | .faults faults => (.silent, { s with host := s.host.failing faults })

/-- **A session answers as those that agree with it.** -/
lemma Agrees.respond {s t : Session} (agrees : s.Agrees t) (i : Input) :
    Alike Agrees (s.respond i) (t.respond i) := by
  obtain ⟨k, hosts, rfl⟩ := agrees.exists_host
  cases i with
  | call c =>
    cases c with
    | line now text =>
      have alike := alike_answer hosts now text
      exact ⟨congrArg Output.reply alike.answer, alike.next⟩
    | write path content => exact ⟨rfl, agrees_host hosts⟩
    | select activity =>
      have alike := alike_select hosts activity
      exact ⟨congrArg Output.selected alike.answer, alike.next⟩
  | missions => exact ⟨congrArg Output.verdicts (missions_agrees hosts), agrees_host hosts⟩
  | faults faults => exact ⟨rfl, agrees_host (hosts.failing faults)⟩

/-- **A change of the activity forgets the past.** Once a session has changed to an activity it
cannot be told from a new one of the same author that starts with that activity, over any store
whose calls fail alike: the answers to whatever is asked from then on are the same, and so are the
activity, the files, the repository, the record, the count of pull requests and the hints that all
this leads to. -/
theorem select_forgets {s : Session} {activity : Option Activity}
    (done : (s.select activity).1 = .ok ()) {store : Store}
    (faults : store.faults = s.host.store.faults) :
    let other := (Session.new store s.author).select activity
    other.1 = .ok () ∧ ∀ inputs,
      (converse respond (s.select activity).2 inputs).1 = (converse respond other.2 inputs).1 ∧
        Agrees (converse respond other.2 inputs).2
          (converse respond (s.select activity).2 inputs).2 := by
  have works : s.host.store.faults.clear = false := works_of_select done
  have works' : (Session.new store s.author).host.store.faults.clear = false := by
    rw [← works, ← faults]
    rfl
  rw [select_of_works works, select_of_works works']
  have agrees : ((Session.new store s.author).restarted activity).Agrees (s.restarted activity) :=
    restarted_agrees (by rfl) faults.symm activity
  refine ⟨rfl, fun inputs => ?_⟩
  obtain ⟨answers, last⟩ := Alike.converse Agrees.respond agrees inputs
  exact ⟨answers, last⟩

/-- A repository with a commit, a record with a pull request, and hints for all that. -/
def pastCalls : List Call :=
  [.line 0 "git init", .write "a" "x\n", .line 0 "git add a", .line 0 "git commit -m 1",
    .line 0 "github create notes", .line 0 "github pr create topic"]

def past : Session := (Session.new .inMemory ⟨"", ""⟩).after pastCalls

theorem select_forgets_past :
    (past.host.nextRequest = 2 ∧ (past.select none).1 = .ok () ∧
        (Store.asDocument none).faults = past.host.store.faults) ∧
      let other := (Session.new (.asDocument none) past.author).select none
      other.1 = .ok () ∧ ∀ inputs,
        (converse respond (past.select none).2 inputs).1 = (converse respond other.2 inputs).1 ∧
          Agrees (converse respond other.2 inputs).2
            (converse respond (past.select none).2 inputs).2 := by
  have counted : past.host.nextRequest = 2 := by decide +kernel
  have faultless : past.host.store.faults = .none := by decide +kernel
  have done : (past.select none).1 = .ok () := by
    rw [select_of_works (by rw [faultless]; rfl)]
  exact ⟨⟨counted, done, faultless.symm⟩, select_forgets done faultless.symm⟩

/-! ### Changes that fail -/

lemma stripped_eq_self_iff {s : Session} :
    s.stripped = s ↔ s.workspace = .empty ∧ s.hints = .empty := by
  constructor
  · intro same
    exact ⟨congrArg (·.workspace) same.symm, congrArg (·.hints) same.symm⟩
  · rintro ⟨bare, unseen⟩
    rw [stripped, ← bare, ← unseen]

/-- **A change of the activity that fails is not undone.** The activity, the record and the count of
pull requests are as before, but files, repository and hints are gone, so that the session is as
before only if it had none of them. -/
theorem failed_select_untouched_iff {s s' : Session} {activity : Option Activity} {e : HostError}
    (failed : s.select activity = (.error e, s')) :
    (s'.activity = s.activity ∧ s'.host = s.host ∧ s'.author = s.author) ∧
      (s'.workspace = .empty ∧ s'.hints = .empty) ∧
      (s' = s ↔ s.workspace = .empty ∧ s.hints = .empty) := by
  have left : s' = s.stripped := by
    rw [select_eq] at failed
    split at failed
    · exact (Prod.mk.inj failed).2.symm
    · cases failed
  subst left
  exact ⟨⟨rfl, rfl, rfl⟩, ⟨rfl, rfl⟩, stripped_eq_self_iff⟩

/-- A store that keeps a record and cannot be cleared. -/
def uncleared : Store := ⟨.memory none, ⟨false, false, true⟩⟩

/-- One file, which no repository knows yet. -/
def unsaved : Session := (Session.new uncleared ⟨"", ""⟩).after [.write "a" "x\n"]

theorem failed_select_untouched_iff_unsaved :
    (unsaved.select none).1 = .error (.store (.failed "clear")) ∧
      (unsaved.select none).2.workspace = .empty ∧
      ((unsaved.select none).2 = unsaved ↔
        unsaved.workspace = .empty ∧ unsaved.hints = .empty) := by
  have refused : (unsaved.select none).1 = .error (.store (.failed "clear")) := by
    rw [select_eq]
    rfl
  obtain ⟨-, left, same⟩ := failed_select_untouched_iff (Prod.ext refused rfl)
  exact ⟨refused, left.1, same⟩

/-- Among the sessions that calls leave, one loses its files when its store cannot be cleared. -/
theorem not_failed_selects_untouched :
    ¬∀ (store : Store) (author : Signature) (calls : List Call) (activity : Option Activity)
      (e : HostError) (s' : Session),
      ((Session.new store author).after calls).select activity = (.error e, s') →
      s' = (Session.new store author).after calls := by
  intro h
  have failed : unsaved.select none = (.error (.store (.failed "clear")), unsaved.stripped) :=
    select_eq unsaved none
  have same : unsaved.stripped = unsaved := h uncleared _ _ none _ _ failed
  have bare : unsaved.workspace = .empty := (stripped_eq_self_iff.1 same).1
  exact absurd bare (by decide +kernel)

end Session

end GitTutor
