import GitTutor.Proofs.Session.Missions
import Mathlib.Data.List.Nodup
import Mathlib.Order.Bounds.Basic

/-!
Which replies carry a hint.

Only a command that succeeds can show the hint of its family, and shows it if no command of the
family has succeeded since the activity was last changed. So the log of hints tells, at any time,
which families have had a success (`isShown_upTo_iff`), and the hint of a family is shown at its
first success and nowhere else.
-/

namespace GitTutor

/-! ### Families -/

namespace FamilyHint

/-- The hints of all families. -/
def all : List FamilyHint :=
  [init, status, add, commit, log, branch, checkout, merge, conflicts, push, pull, clone, remote,
    pages, hostCreate, hostStatus, request]

variable {h h' : FamilyHint}

lemma eq_of_key (hh : h ∈ all) (hh' : h' ∈ all) (same : h.key = h'.key) : h = h' := by
  have distinct : (all.map key).Nodup := by decide +kernel
  exact List.inj_on_of_nodup_map distinct hh hh' same

lemma eq_of_text (hh : h ∈ all) (hh' : h' ∈ all)
    (same : "\n".intercalate h.lines = "\n".intercalate h'.lines) : h = h' := by
  have distinct : (all.map fun h => "\n".intercalate h.lines).Nodup := by decide +kernel
  exact List.inj_on_of_nodup_map distinct hh hh' same

lemma isEmpty_lines (hh : h ∈ all) : h.lines.isEmpty = false := by
  have lined : ∀ h ∈ all, h.lines.isEmpty = false := by decide +kernel
  exact lined h hh

end FamilyHint

lemma Command.hint_mem {c : Command} {h : FamilyHint} (family : c.hint? = some h) :
    h ∈ FamilyHint.all := by
  cases c <;> simp only [Command.hint?, Option.some.injEq, reduceCtorEq] at family <;>
    simp [← family, FamilyHint.all]

lemma Command.eq_of_ofLine {line : String} {c c' : Command} (read : ofLine line = .ok (some c))
    (read' : ofLine line = .ok (some c')) : c = c' :=
  Option.some.inj (Except.ok.inj (read.symm.trans read'))

namespace Hint

variable {reply : String} {lines lines' : List String}

lemma join_ne_self : join reply lines ≠ reply := by
  intro same
  have lengths := congrArg String.length same
  rw [join] at lengths
  split_ifs at lengths with empty
  · rw [String.isEmpty_iff.1 empty] at lengths
    simp [block] at lengths
  · have gap : "\n\n".length = 2 := rfl
    rw [String.length_append, String.length_append] at lengths
    omega

lemma text_of_join (same : join reply lines = join reply lines') :
    "\n".intercalate lines = "\n".intercalate lines' := by
  have blocks : block lines = block lines' := by
    rw [join, join] at same
    split_ifs at same
    · exact String.ofList_injective same
    · exact String.ofList_injective (String.append_right_inj _ |>.1 same)
  rw [block, block, List.append_left_inj, List.append_right_inj, List.cons.injEq] at blocks
  exact String.toList_injective blocks.2

end Hint

namespace Session

variable {α : Type} {s : Session} {now : Int64} {line : String} {c : Command} {h : FamilyHint}

/-! ### Commands and lines -/

lemma hints_attempt (what : Attempt) (result : Except RepoError α × Workspace)
    (reply : α → String) : (s.attempt what result reply).2.hints = s.hints := by
  obtain ⟨_ | _, _⟩ := result <;> rfl

lemma hints_request (result : Except HostError α × Host) (reply : α → String) :
    (s.request result reply).2.hints = s.hints := by
  obtain ⟨_ | _, _⟩ := result <;> rfl

lemma hints_touch (s : Session) (file : String) : (s.touch file).2.hints = s.hints := by
  rw [touch]
  split <;> rfl

lemma hints_checkoutNew (s : Session) (name : String) :
    (s.checkoutNew name).2.hints = s.hints := by
  unfold checkoutNew
  obtain ⟨_ | _, workspace⟩ := s.workspace.createBranch name
  · rfl
  · exact hints_attempt _ _ _

lemma hints_clone (s : Session) (url : String) : (s.clone url).2.hints = s.hints := by
  rw [clone]
  obtain ⟨_ | _, _⟩ := s.host.cloneInto s.workspace url <;> rfl

lemma hints_perform (s : Session) (now : Int64) (c : Command) :
    (s.perform now c).2.hints = s.hints := by
  cases c with
  -- Commands that leave the session alone.
  | help => rfl
  | ls => rfl
  | cat file => rfl
  | pwd => rfl
  | addAll => rfl
  | conflicts => rfl
  -- Questions and operations on the workspace.
  | status => exact hints_attempt _ _ _
  | log reference => exact hints_attempt _ _ _
  | branches => exact hints_attempt _ _ _
  | remotes verbose => exact hints_attempt _ _ _
  | init => exact hints_attempt _ _ _
  | add file => exact hints_attempt _ _ _
  | commit message => exact hints_attempt _ _ _
  | branch name => exact hints_attempt _ _ _
  | checkout branch => exact hints_attempt _ _ _
  | checkoutCommit id => exact hints_attempt _ _ _
  | merge theirs => exact hints_attempt _ _ _
  | remoteAdd name url => exact hints_attempt _ _ _
  | remoteRemove name => exact hints_attempt _ _ _
  | touch file => exact hints_touch s file
  | checkoutNew name => exact hints_checkoutNew s name
  -- Questions and operations on the host.
  | clone url => exact hints_clone s url
  | push remote branch => exact hints_request _ _
  | pull remote branch => exact hints_request _ _
  | publish => exact hints_request _ _
  | republish => exact hints_request _ _
  | hostCreate name => exact hints_request _ _
  | hostStatus => exact hints_request _ _
  | requestCreate source target title => exact hints_request _ _
  | requests => exact hints_request _ _
  | requestMerge id => exact hints_request _ _

/-- What becomes of a line, as far as hints go. -/
inductive Handled (s : Session) (now : Int64) (line : String) : Prop
  | failed (e : CommandError) (s' : Session) (ran : s.run now line = (.error e, s'))
      (kept : s'.hints = s.hints)
  | blank (read : Command.ofLine line = .ok none) (ran : s.run now line = (.ok "", s))
  | done (c : Command) (said : String) (s' : Session) (read : Command.ofLine line = .ok (some c))
      (performed : s.perform now c = (.ok said, s')) (kept : s'.hints = s.hints)
      (ran : s.run now line = withHint c (.ok said, s'))

lemma handled (s : Session) (now : Int64) (line : String) : Handled s now line := by
  cases read : Command.ofLine line with
  | error e => exact .failed _ s (by rw [run, read]) rfl
  | ok read' =>
    cases read' with
    | none => exact .blank read (by rw [run, read])
    | some c =>
      cases allowed : Activity.allows s.activity c.key with
      | false =>
        have ran : s.run now line = (.error (.blocked c.key (Activity.titleOf s.activity)), s) := by
          simp [run, read, Command.keyOfLine_eq read, allowed]
        exact .failed _ s ran rfl
      | true =>
        have ran : s.run now line = s.execute now c := by
          simp [run, read, Command.keyOfLine_eq read, allowed]
        rw [execute] at ran
        split at ran
        · exact .failed _ s ran rfl
        · have kept := hints_perform s now c
          cases performed : s.perform now c with
          | mk result s' =>
            rw [performed] at ran kept
            cases result with
            | error e => exact .failed e s' ran kept
            | ok said => exact .done c said s' read performed kept ran

lemma done_of_run {reply : String} (read : Command.ofLine line = .ok (some c))
    (succeeded : (s.run now line).1 = .ok reply) :
    ∃ said s', s.perform now c = (.ok said, s') ∧ s'.hints = s.hints ∧
      s.run now line = withHint c (.ok said, s') := by
  cases handled s now line with
  | failed e s' ran kept =>
    rw [ran] at succeeded
    cases succeeded
  | blank read' ran =>
    rw [read] at read'
    cases read'
  | done c' said s' read' performed kept ran =>
    obtain rfl := Command.eq_of_ofLine read read'
    exact ⟨said, s', performed, kept, ran⟩

lemma withHint_of_none (unhinted : c.hint? = none) (o : Outcome) : withHint c o = o := by
  obtain ⟨_ | _, _⟩ := o
  · rfl
  · simp [withHint, unhinted]

lemma withHint_of_some (family : c.hint? = some h) (said : String) (s : Session) :
    withHint c (.ok said, s) =
      if s.hints.isShown h.key then (.ok said, s)
      else (.ok (Hint.join said h.lines), { s with hints := ⟨h.key :: s.hints.shown⟩ }) := by
  simp only [withHint, family, HintLog.attach,
    FamilyHint.isEmpty_lines (Command.hint_mem family), Bool.false_or]
  split <;> rfl

/-! ### Single inputs -/

/-- The input is a line with a command of the family, and it succeeds. -/
def Input.Succeeds (s : Session) (h : FamilyHint) (i : Input) : Prop :=
  ∃ now line c reply, i = .call (.line now line) ∧ Command.ofLine line = .ok (some c) ∧
    c.hint? = some h ∧ (s.run now line).1 = .ok reply

/-- The input is a line with a command, and its reply is what the command says with the hint of the
family after it. -/
def Input.Shows (s : Session) (h : FamilyHint) (i : Input) : Prop :=
  ∃ now line c said, i = .call (.line now line) ∧ Command.ofLine line = .ok (some c) ∧
    (s.perform now c).1 = .ok said ∧ (s.run now line).1 = .ok (Hint.join said h.lines)

def Input.isSwitch : Input → Bool
  | .call (.select _) => true
  | _ => false

variable {i : Input}

lemma shows_iff (hh : h ∈ FamilyHint.all) :
    i.Shows s h ↔ i.Succeeds s h ∧ s.hints.isShown h.key = false := by
  constructor
  · rintro ⟨now, line, c, said, rfl, read, performed, shown⟩
    obtain ⟨said', s', performed', kept, ran⟩ := done_of_run read shown
    obtain rfl : said' = said := Except.ok.inj ((congrArg (·.1) performed').symm.trans performed)
    have told := shown
    rw [ran] at told
    cases family : c.hint? with
    | none =>
      rw [withHint_of_none family] at told
      exact absurd (Except.ok.inj told).symm Hint.join_ne_self
    | some h' =>
      rw [withHint_of_some family, kept] at told
      split at told
      · exact absurd (Except.ok.inj told).symm Hint.join_ne_self
      · rename_i unseen
        have text := Hint.text_of_join (Except.ok.inj told)
        obtain rfl := FamilyHint.eq_of_text (Command.hint_mem family) hh text
        exact ⟨⟨now, line, c, _, rfl, read, family, shown⟩, Bool.eq_false_iff.2 unseen⟩
  · rintro ⟨⟨now, line, c, reply, rfl, read, family, succeeded⟩, unseen⟩
    obtain ⟨said, s', performed, kept, ran⟩ := done_of_run read succeeded
    refine ⟨now, line, c, said, rfl, read, by rw [performed], ?_⟩
    rw [ran, withHint_of_some family, kept, unseen]
    rfl

/-- **A hint counts as shown after the first success of its family**, and after nothing else. -/
lemma isShown_respond (hh : h ∈ FamilyHint.all) (stays : i.isSwitch = false) :
    (s.respond i).2.hints.isShown h.key = true ↔
      s.hints.isShown h.key = true ∨ i.Succeeds s h := by
  cases i with
  | missions => simp [respond, Input.Succeeds]
  | faults faults => simp [respond, Input.Succeeds]
  | call call =>
    cases call with
    | select activity => cases stays
    | write path content => simp [respond, write, Input.Succeeds]
    | line now line =>
      rw [respond, answer_snd]
      cases handled s now line with
      | failed e s' ran kept =>
        have fails : ¬(Input.call (.line now line)).Succeeds s h := by
          rintro ⟨_, _, c, reply, ⟨⟩, -, -, succeeded⟩
          rw [ran] at succeeded
          cases succeeded
        simp only [ran, kept, fails, or_false]
      | blank read ran =>
        have fails : ¬(Input.call (.line now line)).Succeeds s h := by
          rintro ⟨_, _, c, reply, ⟨⟩, read', -⟩
          rw [read] at read'
          cases read'
        simp only [ran, fails, or_false]
      | done c said s' read performed kept ran =>
        have succeeds : (Input.call (.line now line)).Succeeds s h ↔ c.hint? = some h := by
          constructor
          · rintro ⟨_, _, c', reply, ⟨⟩, read', family, -⟩
            obtain rfl := Command.eq_of_ofLine read read'
            exact family
          · intro family
            have succeeded : ∃ reply, (s.run now line).1 = .ok reply := by
              rw [ran, withHint_of_some family]
              split <;> exact ⟨_, rfl⟩
            obtain ⟨reply, succeeded⟩ := succeeded
            exact ⟨now, line, c, reply, rfl, read, family, succeeded⟩
        rw [ran, succeeds]
        cases family : c.hint? with
        | none => simp [withHint_of_none family, kept]
        | some h' =>
          -- No two families share a key, so the log cannot take one family for another.
          have key : h.key = h'.key ↔ h' = h :=
            ⟨fun same => (FamilyHint.eq_of_key hh (Command.hint_mem family) same).symm,
              fun same => by rw [same]⟩
          rw [withHint_of_some family, kept, Option.some.injEq, ← key]
          split
          · rename_i seen
            rw [kept, or_iff_left_of_imp]
            intro same
            rwa [same]
          · simp [HintLog.isShown, or_comm]

/-! ### Runs -/

/-- The session after the first `k` inputs. -/
def upTo (s : Session) (inputs : List Input) (k : Nat) : Session :=
  (converse respond s (inputs.take k)).2

variable {inputs : List Input}

lemma upTo_succ {k : Nat} (at_ : inputs[k]? = some i) :
    s.upTo inputs (k + 1) = ((s.upTo inputs k).respond i).2 := by
  rw [upTo, List.take_add_one, at_]
  exact converse_concat _ _ _ _

/-- At place `k` stands a command of the family, and it succeeds. -/
def SucceedsAt (s : Session) (inputs : List Input) (h : FamilyHint) (k : Nat) : Prop :=
  ∃ i, inputs[k]? = some i ∧ i.Succeeds (s.upTo inputs k) h

/-- The reply at place `k` carries the hint of the family. -/
def ShownAt (s : Session) (inputs : List Input) (h : FamilyHint) (k : Nat) : Prop :=
  ∃ i, inputs[k]? = some i ∧ i.Shows (s.upTo inputs k) h

/-- A session as it is when a run begins: it is new, or it has just changed its activity, or has
tried to. -/
inductive Started : Session → Prop
  | new (store : Store) (author : Signature) : Started (new store author)
  | switched (s : Session) (activity : Option Activity) : Started (s.select activity).2

lemma Started.hints_eq (start : Started s) : s.hints = .empty := by
  cases start with
  | new store author => rfl
  | switched s activity =>
    rw [select_eq]
    split <;> rfl

/-- At any time of a run the log tells which families have had a success. -/
lemma isShown_upTo_iff (start : Started s) (stays : ∀ i ∈ inputs, i.isSwitch = false)
    (hh : h ∈ FamilyHint.all) (k : Nat) :
    (s.upTo inputs k).hints.isShown h.key = true ↔ ∃ j < k, s.SucceedsAt inputs h j := by
  induction k with
  | zero =>
    have fresh : (s.upTo inputs 0).hints = .empty := start.hints_eq
    simp [fresh, HintLog.isShown, HintLog.empty]
  | succ k ih =>
    have latest : (∃ j < k + 1, s.SucceedsAt inputs h j) ↔
        (∃ j < k, s.SucceedsAt inputs h j) ∨ s.SucceedsAt inputs h k := by
      simp only [Nat.lt_succ_iff_lt_or_eq, or_and_right, exists_or, exists_eq_left]
    rw [latest, ← ih]
    cases at_ : inputs[k]? with
    | none =>
      have same : s.upTo inputs (k + 1) = s.upTo inputs k := by
        rw [upTo, List.take_add_one, at_, Option.toList_none, List.append_nil, ← upTo]
      simp [same, SucceedsAt, at_]
    | some i =>
      rw [upTo_succ at_, isShown_respond hh (stays i (List.mem_of_getElem? at_))]
      simp [SucceedsAt, at_]

/-- The keys of the commands that are neither of `git` nor of `github`. -/
def shellKeys : List String := ["help", "ls", "cat", "touch", "pwd"]

lemma hint?_eq_none_iff : c.hint? = none ↔ c.key ∈ shellKeys := by
  cases c <;> simp [Command.hint?, Command.key, shellKeys]

/-- What a line that shows no hint of its own leaves of the hints. -/
structure HintsLeft (s : Session) (now : Int64) (line : String) : Prop where
  /-- A line that fails is answered with its failure. -/
  failed : ∀ e, (s.run now line).1 = .error e →
    (s.answer now line).1 = e.message ∧ (s.answer now line).2.hints = s.hints
  /-- To stage everything at once always fails. -/
  stagesAll : Command.ofLine line = .ok (some .addAll) → ∃ e, (s.run now line).1 = .error e
  /-- A shell command is answered with what it says. -/
  shell : ∀ c reply, Command.ofLine line = .ok (some c) → c.key ∈ shellKeys →
    (s.run now line).1 = .ok reply →
    (s.perform now c).1 = .ok reply ∧ (s.answer now line).2.hints = s.hints

lemma hintsLeft (s : Session) (now : Int64) (line : String) : HintsLeft s now line where
  failed e failed := by
    cases handled s now line with
    | failed e' s' ran kept =>
      rw [ran] at failed
      rw [answer, ran]
      exact ⟨congrArg CommandError.message (Except.error.inj failed), kept⟩
    | blank read ran =>
      rw [ran] at failed
      cases failed
    | done c said s' read performed kept ran =>
      rw [ran, withHint] at failed
      split at failed <;> cases failed
  stagesAll read := by
    cases handled s now line with
    | failed e s' ran kept => exact ⟨e, by rw [ran]⟩
    | blank read' ran =>
      rw [read] at read'
      cases read'
    | done c said s' read' performed kept ran =>
      obtain rfl := Command.eq_of_ofLine read read'
      cases performed
  shell c reply read key succeeded := by
    obtain ⟨said, s', performed, kept, ran⟩ := done_of_run read succeeded
    rw [withHint_of_none (hint?_eq_none_iff.2 key)] at ran
    rw [ran] at succeeded
    rw [performed, answer, ran]
    exact ⟨succeeded, kept⟩

/-- **Every hint is shown once, at the first success of its family.** In a run that does not change
the activity, the replies that carry the hint of a family are the reply to its first command that
succeeds, and no other. A line that fails is answered with its failure and does not count, and a
shell command is answered without a hint. -/
theorem hint_shown_once (start : Started s) (inputs : List Input)
    (stays : ∀ i ∈ inputs, i.isSwitch = false) :
    (∀ (c : Command) (h : FamilyHint), c.hint? = some h → ∀ k,
      s.ShownAt inputs h k ↔ IsLeast {j | s.SucceedsAt inputs h j} k) ∧
    ∀ k now line, inputs[k]? = some (.call (.line now line)) →
      HintsLeft (s.upTo inputs k) now line := by
  refine ⟨fun c h family k => ?_, fun k now line _ => hintsLeft _ now line⟩
  have hh := Command.hint_mem family
  have unseen : (s.upTo inputs k).hints.isShown h.key = false ↔
      ∀ j, s.SucceedsAt inputs h j → k ≤ j := by
    rw [← Bool.not_eq_true, isShown_upTo_iff start stays hh]
    simp only [not_exists, not_and', not_lt]
  have first : s.ShownAt inputs h k ↔
      s.SucceedsAt inputs h k ∧ (s.upTo inputs k).hints.isShown h.key = false := by
    simp only [ShownAt, SucceedsAt, shows_iff hh, ← and_assoc, exists_and_right]
  rw [first, unseen]
  rfl

/-- Two lines that fail, and then the same question twice. -/
def questions : List Input :=
  ["git status", "git add .", "git init", "git status", "git status"].map fun line =>
    .call (.line 0 line)

theorem hint_shown_once_questions :
    Started (new .inMemory ⟨"", ""⟩) ∧ (∀ i ∈ questions, i.isSwitch = false) ∧
      Command.status.hint? = some .status ∧
      (new .inMemory ⟨"", ""⟩).ShownAt questions .status 3 ∧
      IsLeast {j | (new .inMemory ⟨"", ""⟩).SucceedsAt questions .status j} 3 ∧
      ¬(new .inMemory ⟨"", ""⟩).ShownAt questions .status 4 := by
  have start : Started (new .inMemory ⟨"", ""⟩) := .new _ _
  have stays : ∀ i ∈ questions, i.isSwitch = false := by decide
  have once := (hint_shown_once start questions stays).1 .status .status rfl
  have shown : (new .inMemory ⟨"", ""⟩).ShownAt questions .status 3 :=
    ⟨_, rfl, 0, "git status", .status, "On branch main\nNothing to commit, working tree clean.",
      rfl, by decide +kernel, by decide +kernel, by decide +kernel⟩
  have first := (once 3).1 shown
  exact ⟨start, stays, rfl, shown, first, fun again =>
    absurd (first.unique ((once 4).1 again)) (by decide)⟩

end Session

end GitTutor
