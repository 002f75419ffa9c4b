import GitTutor.Proofs.Session.Cloning
import GitTutor.Proofs.Session.Conflicts
import GitTutor.Proofs.Session.Switching
import GitTutor.Proofs.Workspace.Standstill
import Mathlib.Data.List.Induction

/-!
The two missions of a conflict.

One is done while the repository reports a conflict. The other one looks at the texts of the files
and at the newest commit, and does not ask the repository. Both can be done at once: when the marks
are gone from the files and the merge is not committed yet, the newest commit is still the one that
the merge was started on, and its message may have the phrase by chance. There is no other way
(`conflict_missions_meet`).
-/

namespace GitTutor

/-! ### Checks -/

namespace Check

variable {w : Workspace} {h : Host}

lemma lastMessageLacks_eq_nil_iff {phrase complaint : String} :
    lastMessageLacks w phrase complaint = [] ↔
      ∃ message, w.lastMessage? = some message ∧ mentions message.toList phrase.toList = true := by
  unfold lastMessageLacks
  cases w.lastMessage? with
  | none => simp
  | some message => simp [lacks_eq_nil_iff]

lemma conflictResolvedLacks_eq_nil_iff {phrase : String} :
    conflictResolvedLacks w phrase = [] ↔ w.markedFiles = [] ∧
      ∃ message, w.lastMessage? = some message ∧ mentions message.toList phrase.toList = true := by
  rw [conflictResolvedLacks, List.append_eq_nil_iff, lacks_eq_nil_iff, Bool.not_eq_false',
    List.isEmpty_iff, lastMessageLacks_eq_nil_iff]

lemma lacking_conflictResolved {found : Option Record} (stored : h.record? = .ok found)
    (phrase : String) :
    (conflictResolved phrase).lacking w h = conflictResolvedLacks w phrase := by
  rw [lacking, stored]

lemma conflicts_of_produced (done : conflictProduced.lacking w h = []) :
    (∃ found, h.record? = .ok found) ∧
      ∃ r, w.repository = some r ∧ r.conflicts ≠ ∅ := by
  rw [lacking] at done
  cases stored : h.record? with
  | error e =>
    rw [stored] at done
    cases done
  | ok found =>
    rw [stored] at done
    refine ⟨⟨found, rfl⟩, ?_⟩
    replace done : conflictProducedLacks w = [] := done
    rw [conflictProducedLacks, lacks_eq_nil_iff, Bool.not_eq_false'] at done
    cases hr : w.repository with
    | none =>
      rw [Workspace.status, Workspace.ask, hr] at done
      cases done
    | some r =>
      rw [Workspace.status, Workspace.ask, hr] at done
      obtain ⟨entry, listed, conflicted⟩ := List.any_eq_true.1 done
      refine ⟨r, rfl, fun calm => ?_⟩
      have reported := Entries.find_of_mem (r.status w.files).sorted listed
      rw [of_decide_eq_true conflicted] at reported
      exact FileStatus.ofContents_ne_conflicted _ _ _
        ((Repository.get?_status calm entry.1).symm.trans reported)

end Check

/-! ### Files that keep their marks -/

namespace Workspace

variable {w w' : Workspace} {r r' : Repository} {paths : List String}

lemma mem_markedFiles_iff {path : String} : path ∈ w.markedFiles ↔ path ≠ metadataDir ∧
    ∃ content, w.files.get? path = some content ∧ Merge.hasMarks content = true := by
  rw [markedFiles_eq, Table.mem_names_iff, Table.contains_iff]
  simp only [Table.get?_pick, Option.bind_eq_some_iff]
  constructor
  · rintro ⟨_, content, file, h⟩
    split_ifs at h with marked
    exact ⟨marked.1, content, file, marked.2⟩
  · rintro ⟨visible, content, file, marks⟩
    exact ⟨(), content, file, if_pos ⟨visible, marks⟩⟩

lemma Standing.marked (h : Standing paths w w' r r') {path : String} (marked : path ∈ w.markedFiles)
    (kept : path ∉ paths) : path ∈ w'.markedFiles := by
  obtain ⟨visible, content, file, marks⟩ := mem_markedFiles_iff.1 marked
  exact mem_markedFiles_iff.2 ⟨visible, content, h.files path content kept file, marks⟩

lemma standstill_cloneInto (h : Host) (w : Workspace) (url : String) :
    Standstill [] w (h.cloneInto w url).2 := by
  by_cases served : ∃ record, h.Serves url record
  · obtain ⟨record, serves⟩ := served
    cases valid : validBranchName record.defaultBranch with
    | true =>
      rw [Host.cloneInto_of_valid serves valid]
      exact .of_some rfl
    | false =>
      rw [Host.cloneInto_of_invalid serves valid]
      exact .of_calm fun _ hr => by cases hr
  · obtain ⟨e, failed⟩ := Host.cloneInto_of_unserved served w
    rw [failed]
    exact .refl _ _

end Workspace

namespace Session

open Workspace

variable {α : Type} {s : Session} {now : Int64}

/-! ### Commands -/

/-- A merge has stopped, and nothing was recorded. -/
structure Stops (w : Workspace) (o : Outcome) : Prop where
  answer : ∃ e, o.1 = .error e ∧ e.isMergeConflict = true
  head : ∀ r', o.2.workspace.repository = some r' → ∃ r, w.repository = some r ∧ SameHead r r'

/-- What can come of a command: a merge stops, or all stands still. -/
def StopsOrStands (w : Workspace) (o : Outcome) : Prop :=
  Stops w o ∨ Standstill [] w o.2.workspace

lemma stopsOrStands_attempt (op : Operation) (unwritten : op.written = []) {answer : α → Answer}
    {what : Attempt} {result : Except RepoError α × Workspace} {reply : α → String}
    (hop : op.perform s.workspace = Answer.wrap answer result) :
    StopsOrStands s.workspace (s.attempt what result reply) := by
  have ht := op.transition s.workspace
  rw [hop] at ht
  obtain ⟨result, w⟩ := result
  rcases ht.standstill with ⟨e, he, conflict⟩ | still
  · cases result with
    | ok a => cases he
    | error cause =>
      obtain rfl := Except.error.inj he
      exact .inl ⟨⟨_, rfl, conflict⟩, fun r' hr' => ht.sameHead_of_error hr'⟩
  · rw [unwritten] at still
    cases result <;> exact .inr still

lemma stopsOrStands_ask (what : Attempt) (result : Except RepoError α) (reply : α → String) :
    StopsOrStands s.workspace (s.ask what result reply) := by
  cases result <;> exact .inr (.refl _ _)

lemma stopsOrStands_request (result : Except HostError α × Host) (reply : α → String) :
    StopsOrStands s.workspace (s.request result reply) := by
  obtain ⟨answer, host⟩ := result
  cases answer <;> exact .inr (.refl _ _)

lemma stopsOrStands_touch (file : String) : StopsOrStands s.workspace (s.touch file) := by
  rw [touch]
  split
  · exact .inr (.refl _ _)
  · rename_i absent
    exact .inr (.write_new (Bool.eq_false_iff.2 absent) "")

lemma stopsOrStands_checkoutNew (name : String) :
    StopsOrStands s.workspace (s.checkoutNew name) := by
  have still := standstill_createBranch s.workspace name
  unfold checkoutNew
  cases created : s.workspace.createBranch name with
  | mk result w =>
    rw [created] at still
    cases result with
    | error e => exact .inr still
    | ok =>
      have switched := still.trans (standstill_checkout w name)
      simp only [attempt]
      cases heq : w.checkout name with
      | mk answer w' =>
        rw [heq] at switched
        cases answer <;> exact .inr switched

lemma stopsOrStands_clone (url : String) : StopsOrStands s.workspace (s.clone url) := by
  have still := standstill_cloneInto s.host s.workspace url
  rw [clone]
  cases heq : s.host.cloneInto s.workspace url with
  | mk result w =>
    rw [heq] at still
    cases result <;> exact .inr still

lemma stopsOrStands_perform (s : Session) (now : Int64) (c : Command) :
    StopsOrStands s.workspace (s.perform now c) := by
  cases c with
  -- Commands that leave the session alone.
  | help => exact .inr (.refl _ _)
  | ls => exact .inr (.refl _ _)
  | cat file => exact .inr (.refl _ _)
  | pwd => exact .inr (.refl _ _)
  | addAll => exact .inr (.refl _ _)
  | conflicts => exact .inr (.refl _ _)
  -- Questions and operations on the workspace.
  | status => exact stopsOrStands_ask _ _ _
  | log reference => exact stopsOrStands_ask _ _ _
  | branches => exact stopsOrStands_ask _ _ _
  | remotes verbose => exact stopsOrStands_ask _ _ _
  | init => exact stopsOrStands_attempt (.init Reply.defaultBranch) rfl rfl
  | add file => exact stopsOrStands_attempt (.add file) rfl rfl
  | commit message => exact stopsOrStands_attempt (.commit now message s.author) rfl rfl
  | branch name => exact stopsOrStands_attempt (.createBranch name) rfl rfl
  | checkout branch => exact stopsOrStands_attempt (.checkout branch) rfl rfl
  | checkoutCommit id => exact stopsOrStands_attempt (.checkout id) rfl rfl
  | merge theirs => exact stopsOrStands_attempt (.merge now theirs s.author) rfl rfl
  | remoteAdd name url => exact stopsOrStands_attempt (.addRemote name url) rfl rfl
  | remoteRemove name => exact stopsOrStands_attempt (.removeRemote name) rfl rfl
  | touch file => exact stopsOrStands_touch file
  | checkoutNew name => exact stopsOrStands_checkoutNew name
  -- Questions and operations on the host.
  | clone url => exact stopsOrStands_clone url
  | push remote branch => exact stopsOrStands_request _ _
  | pull remote branch => exact stopsOrStands_request _ _
  | publish => exact stopsOrStands_request _ _
  | republish => exact stopsOrStands_request _ _
  | hostCreate name => exact stopsOrStands_request _ _
  | hostStatus => exact stopsOrStands_request _ _
  | requestCreate source target title => exact stopsOrStands_request _ _
  | requests => exact stopsOrStands_request _ _
  | requestMerge id => exact stopsOrStands_request _ _

lemma stopsOrStands_withHint {w : Workspace} {o : Outcome} (h : StopsOrStands w o) (c : Command) :
    StopsOrStands w (withHint c o) := by
  obtain ⟨result, t⟩ := o
  cases result with
  | error e => exact h
  | ok reply =>
    have still : Standstill [] w t.workspace :=
      h.resolve_left fun stops => by obtain ⟨_, h, _⟩ := stops.answer; cases h
    rw [withHint]
    cases c.hint? <;> exact .inr still

lemma stopsOrStands_execute (s : Session) (now : Int64) (c : Command) :
    StopsOrStands s.workspace (s.execute now c) := by
  rw [execute]
  split
  · exact .inr (.refl _ _)
  · exact stopsOrStands_withHint (stopsOrStands_perform s now c) c

lemma stopsOrStands_run (s : Session) (now : Int64) (line : String) :
    StopsOrStands s.workspace (s.run now line) := by
  rw [run]
  cases Command.ofLine line with
  | error e => exact .inr (.refl _ _)
  | ok read =>
    cases read with
    | none => exact .inr (.refl _ _)
    | some c =>
      simp only
      cases Command.keyOfLine line with
      | none => exact stopsOrStands_execute s now c
      | some key =>
        simp only
        split
        · exact stopsOrStands_execute s now c
        · exact .inr (.refl _ _)

/-! ### Whole sessions -/

lemma answer_snd (s : Session) (now : Int64) (line : String) :
    (s.answer now line).2 = (s.run now line).2 := by
  rw [answer]
  obtain ⟨_ | _, _⟩ := s.run now line <;> rfl

lemma repository_seeded (activity : Option Activity) : (seeded activity).repository = none := by
  rw [seeded]
  generalize (activity.map (·.seeds)).getD [] = seeds
  have kept (w : Workspace) : (seeds.foldl (fun w seed => w.write seed.path seed.content)
      w).repository = w.repository := by
    induction seeds generalizing w with
    | nil => rfl
    | cons seed seeds ih => exact ih (w.write seed.path seed.content)
  exact kept .empty

/-- The files that an input writes. -/
def Input.written : Input → List String
  | .call (.write path _) => [path]
  | _ => []

/-- Whether an input is a line whose merge stops. -/
def Input.StopsAt (s : Session) (i : Input) : Prop :=
  ∃ now line, i = .call (.line now line) ∧ Stops s.workspace (s.run now line)

lemma stopsOrStands_respond (s : Session) (i : Input) :
    i.StopsAt s ∨ Standstill i.written s.workspace (s.respond i).2.workspace := by
  cases i with
  | missions => exact .inr (.refl _ _)
  | faults faults => exact .inr (.refl _ _)
  | call c =>
    cases c with
    | write path content => exact .inr (.write s.workspace path content)
    | line now line =>
      rcases stopsOrStands_run s now line with stops | still
      · exact .inl ⟨now, line, rfl, stops⟩
      · refine .inr ?_
        rw [respond, answer_snd]
        exact still
    | select activity =>
      -- Neither the old workspace nor the new one has a repository.
      refine .inr (.of_calm fun r' hr' => ?_)
      rw [respond, select_eq] at hr'
      split at hr'
      · cases hr'
      · exact absurd ((repository_seeded activity).symm.trans hr') (by simp)

lemma converse_concat {σ ι ο : Type} (respond : σ → ι → ο × σ) (s : σ) (is : List ι) (i : ι) :
    (converse respond s (is ++ [i])).2 = (respond (converse respond s is).2 i).2 := by
  induction is generalizing s with
  | nil => rfl
  | cons _ is ih => exact ih _

/-- The session that inputs make of a new one. -/
def reached (store : Store) (author : Signature) (inputs : List Input) : Session :=
  (converse respond (new store author) inputs).2

variable {store : Store} {author : Signature}

/-- Every conflict goes back to a merge that has stopped, and all has stood still since, but for the
files that were written. -/
lemma exists_stop (inputs : List Input) {r : Repository}
    (hr : (reached store author inputs).workspace.repository = some r)
    (conflicts : r.conflicts ≠ ∅) :
    ∃ before now line later, inputs = before ++ .call (.line now line) :: later ∧
      Stops (reached store author before).workspace ((reached store author before).run now line) ∧
      ∃ r₁, Standing (later.flatMap Input.written)
        ((reached store author before).run now line).2.workspace
        (reached store author inputs).workspace r₁ r := by
  -- By the last input: it has stopped, or the merge that did is found among those before it.
  induction inputs using List.reverseRecOn generalizing r with
  | nil => cases hr
  | append_singleton inputs i ih =>
    have next : reached store author (inputs ++ [i]) =
        ((reached store author inputs).respond i).2 := converse_concat _ _ _ _
    rw [next] at hr ⊢
    rcases stopsOrStands_respond (reached store author inputs) i with
      ⟨now, line, rfl, stops⟩ | still
    · rw [respond, answer_snd] at hr ⊢
      exact ⟨inputs, now, line, [], rfl, stops, r, hr, conflicts, .refl r, fun _ _ _ h => h⟩
    · obtain ⟨r', since⟩ := still r hr conflicts
      obtain ⟨before, now, line, later, rfl, stops, r₁, earlier⟩ :=
        ih since.repository since.conflicts
      refine ⟨before, now, line, later ++ [i], by simp, stops, r₁, ?_⟩
      rw [List.flatMap_append, List.flatMap_singleton]
      exact earlier.trans since

/-! ### Both missions at once -/

/-- A line has stopped as a merge in `s₀`, and what it has put into conflict is not all added yet in
`s`, after the inputs `later`. -/
structure Lingers (s₀ : Session) (now : Int64) (line : String) (later : List Input) (s : Session) :
    Prop where
  stopped : ∃ e, (s₀.run now line).1 = .error e ∧ e.isMergeConflict = true
  /-- No commit has been made, and the head is at the commit on which the merge was started. -/
  uncommitted : ∃ r₀ r, s₀.workspace.repository = some r₀ ∧ s.workspace.repository = some r ∧
    SameHead r₀ r
  /-- Files keep their marks until they are written. -/
  marked : ∀ path ∈ (s₀.run now line).2.workspace.markedFiles,
    path ∉ later.flatMap Input.written → path ∈ s.workspace.markedFiles
  resolved : ∀ phrase, (Check.conflictResolved phrase).lacking s.workspace s.host = [] ↔
    s.workspace.markedFiles = [] ∧ ∃ message, s₀.workspace.lastMessage? = some message ∧
      mentions message.toList phrase.toList = true

/-- **Both missions of a conflict are done at once only by an old message.** Whatever a new session
is asked for, if it then shows that a conflict is produced, some line has stopped as a merge and no
commit has been made since. That the conflict is resolved is shown at the same time exactly if no
visible file has marks any more, although all keep those they had until they are written, and the
commit on which the merge was started mentions the phrase. -/
theorem conflict_missions_meet {inputs : List Input}
    (produced : Check.conflictProduced.lacking (reached store author inputs).workspace
      (reached store author inputs).host = []) :
    ∃ before now line later, inputs = before ++ .call (.line now line) :: later ∧
      Lingers (reached store author before) now line later (reached store author inputs) := by
  obtain ⟨⟨found, stored⟩, r, hr, conflicts⟩ := Check.conflicts_of_produced produced
  obtain ⟨before, now, line, later, hinputs, stops, r₁, since⟩ := exists_stop inputs hr conflicts
  obtain ⟨r₀, hr₀, start⟩ := stops.head r₁ since.repository
  have head : SameHead r₀ r := start.trans since.head
  refine ⟨before, now, line, later, hinputs, stops.answer, ⟨r₀, r, hr₀, hr, head⟩, ?_, ?_⟩
  · exact fun path marked kept => since.marked marked kept
  · intro phrase
    rw [Check.lacking_conflictResolved stored, Check.conflictResolvedLacks_eq_nil_iff,
      head.lastMessage? hr₀ hr]

lemma reached_calls (calls : List Call) :
    reached store author (calls.map .call) = (new store author).after calls := by
  induction calls using List.reverseRecOn with
  | nil => rfl
  | append_singleton calls c ih =>
    rw [List.map_append, reached, List.map_singleton, converse_concat, ← reached, ih, after_append]
    cases c with
    | line now text => exact answer_snd _ now text
    | write path content => rfl
    | select activity => rfl

/-- A merge stops, and then the marks are taken from the one file in conflict. -/
def unmarking : List Input :=
  (divergingCalls ++ [Call.line 0 "git merge main", .write "a" "both\n"]).map .call

lemma both_done :
    Check.conflictProduced.lacking (reached .inMemory ⟨"", ""⟩ unmarking).workspace
        (reached .inMemory ⟨"", ""⟩ unmarking).host = [] ∧
      (Check.conflictResolved "3").lacking (reached .inMemory ⟨"", ""⟩ unmarking).workspace
        (reached .inMemory ⟨"", ""⟩ unmarking).host = [] := by
  have left : reached .inMemory ⟨"", ""⟩ unmarking = halted.write "a" "both\n" := by
    rw [unmarking, reached_calls, after_append, after_divergingCalls]
    rfl
  rw [left]
  decide +kernel

theorem conflict_missions_meet_unmarking :
    Check.conflictProduced.lacking (reached .inMemory ⟨"", ""⟩ unmarking).workspace
        (reached .inMemory ⟨"", ""⟩ unmarking).host = [] ∧
      ∃ before now line later, unmarking = before ++ .call (.line now line) :: later ∧
        Lingers (reached .inMemory ⟨"", ""⟩ before) now line later
          (reached .inMemory ⟨"", ""⟩ unmarking) :=
  ⟨both_done.1, conflict_missions_meet both_done.1⟩

/-- Among the sessions that inputs make of a new one, one shows both missions done. -/
theorem not_conflict_missions_exclusive :
    ¬∀ (store : Store) (author : Signature) (inputs : List Input) (phrase : String),
      Check.conflictProduced.lacking (reached store author inputs).workspace
        (reached store author inputs).host = [] →
      (Check.conflictResolved phrase).lacking (reached store author inputs).workspace
        (reached store author inputs).host ≠ [] :=
  fun h => h .inMemory ⟨"", ""⟩ unmarking "3" both_done.1 both_done.2

end Session

end GitTutor
