import GitTutor.Proofs.Session.Atomicity

/-!
What the reply to a checkout says about the head.

Whether a word names a branch or a commit is decided twice. The reader goes by its spelling
(`Command.isCommitId`) and so chooses the words of the reply; the repository looks among its
branches first and so chooses where the head goes. A reply is true where the two agree.
-/

namespace GitTutor

/-! ### Where a checkout leads -/

namespace Repository

variable {r : Repository} {name : String}

/-- There is a branch of this name; the current one counts before its first commit, too. -/
def HasBranch (r : Repository) (name : String) : Prop :=
  r.branches.contains name = true ∨ r.head = .branch name

lemma not_hasBranch (missing : r.branches.get? name = none) (other : r.head ≠ .branch name) :
    ¬r.HasBranch name := by
  rintro (known | current)
  · rw [Table.contains_eq_false_iff.2 missing] at known
    cases known
  · exact other current

end Repository

namespace Workspace

variable {w w' : Workspace} {name : String}

def HasBranch (w : Workspace) (name : String) : Prop :=
  ∃ r, w.repository = some r ∧ r.HasBranch name

lemma hasBranch_iff {r : Repository} (hr : w.repository = some r) :
    w.HasBranch name ↔ r.HasBranch name := by
  simp [HasBranch, hr]

lemma currentBranch_of_checkout (done : w.checkout name = (.ok (), w')) :
    (w.HasBranch name ∧ w'.currentBranch = .ok (some name)) ∨
      (¬w.HasBranch name ∧ w'.currentBranch = .ok none) := by
  have ht := (Operation.checkout name).transition w
  rw [Operation.perform, done] at ht
  change Transition w _ (.ok .done) w' at ht
  -- The head goes to where the name leads, whether the files are swapped or not.
  have arrived : ∀ {r : Repository} {head : Head} {id : CommitId} {files : Tree}
      {r' : Repository}, w.repository = some r → r.destination name = .ok (.commit head id) →
      r'.head = head → (w.HasBranch name ∧
          currentBranch ⟨files, some r'⟩ = .ok (some name)) ∨
        (¬w.HasBranch name ∧ currentBranch ⟨files, some r'⟩ = .ok none) := by
    intro r head id files r' hr goal moved
    rw [hasBranch_iff hr]
    rcases Repository.destination_ends goal with
      ⟨⟨⟩, -⟩ | ⟨_, ⟨⟩, tip⟩ | ⟨_, ⟨⟩, -, missing, other⟩
    · exact .inl ⟨.inl (Table.contains_of_get? tip), by simp [currentBranch, ask, moved]⟩
    · exact .inr ⟨Repository.not_hasBranch missing other, by simp [currentBranch, ask, moved]⟩
  cases ht with
  | stay hr _ goal =>
    rcases Repository.destination_ends goal with ⟨-, current⟩ | ⟨_, ⟨⟩, -⟩ | ⟨_, ⟨⟩, -⟩
    exact .inl ⟨(hasBranch_iff hr).2 (.inr current), by simp [currentBranch, ask, hr, current]⟩
  | switch hr _ goal _ => exact arrived hr goal rfl
  | move hr _ goal _ _ _ => exact arrived hr goal rfl

lemma currentBranch_iff (done : w.checkout name = (.ok (), w')) :
    (w'.currentBranch = .ok (some name) ↔ w.HasBranch name) ∧
      (w'.currentBranch = .ok none ↔ ¬w.HasBranch name) := by
  rcases currentBranch_of_checkout done with ⟨known, current⟩ | ⟨unknown, current⟩
  · simp [current, known]
  · simp [current, unknown]

lemma hasBranch_of_createBranch (done : w.createBranch name = (.ok (), w')) :
    w'.HasBranch name := by
  have ht := (Operation.createBranch name).transition w
  rw [Operation.perform, done] at ht
  cases ht with
  | branch _ _ _ _ => exact ⟨_, rfl, .inl (by simp)⟩

end Workspace

namespace Hint

variable {reply : String} {lines : List String}

lemma join_eq (h : reply ≠ "") :
    join reply lines = reply ++ "\n\n" ++ String.ofList (block lines) := by
  rw [join, if_neg (by simpa using h)]

lemma endMark_suffix (h : reply ≠ "") : endMark <:+ (join reply lines).toList := by
  have ends : endMark <:+ block lines := (List.suffix_cons _ _).trans (List.suffix_append _ _)
  rw [join_eq h, String.toList_append, String.toList_ofList]
  exact ends.trans (List.suffix_append _ _)

end Hint

namespace Session

/-! ### What a reply announces -/

namespace Notice

inductive Kind where
  | switched
  | created
  | detached

/-- The words before the name. -/
def Kind.opening : Kind → String
  | switched => "Switched to branch '"
  | created => "Switched to a new branch '"
  | detached => "HEAD is now detached at "

/-- The words after the name. -/
def Kind.closing : Kind → String
  | switched | created => "'"
  | detached => ".\n" ++ "You are looking at an old snapshot. Go back with: git checkout main"

end Notice

/-- What the reply to a checkout announces of a branch or a place. -/
structure Notice where
  kind : Notice.Kind
  name : String

namespace Notice

def text : Notice → String
  | ⟨.switched, name⟩ => s!"Switched to branch '{name}'"
  | ⟨.created, name⟩ => s!"Switched to a new branch '{name}'"
  | ⟨.detached, place⟩ => Reply.detached place

/-- Whether a workspace is as announced. -/
def Holds (w : Workspace) : Notice → Prop
  | ⟨.switched, name⟩ | ⟨.created, name⟩ => w.currentBranch = .ok (some name)
  | ⟨.detached, _⟩ => w.currentBranch = .ok none

lemma text_eq (n : Notice) : n.text = n.kind.opening ++ n.name ++ n.kind.closing := by
  obtain ⟨kind, name⟩ := n
  cases kind with
  | switched => rfl
  | created => rfl
  | detached => exact String.append_assoc

lemma Kind.opening_ne_empty (k : Kind) : k.opening ≠ "" := by
  cases k <;> decide +kernel

lemma Kind.eq_of_opening {k k' : Kind} (h : k.opening.toList <+: k'.opening.toList) : k = k' := by
  cases k <;> cases k' <;> first | rfl | exact absurd h (by decide +kernel)

lemma Kind.not_suffix (k : Kind) :
    ¬Hint.endMark <:+ k.closing.toList ∧ ¬k.closing.toList <:+ Hint.endMark := by
  cases k <;> decide +kernel

lemma text_ne_empty (n : Notice) : n.text ≠ "" := by
  obtain ⟨kind, name⟩ := n
  rw [text_eq, Ne, String.append_eq_empty_iff, String.append_eq_empty_iff]
  exact fun empty => kind.opening_ne_empty empty.1.1

/-- No opening is the start of another, so that the words tell notices apart. -/
lemma text_injective : Function.Injective text := by
  intro n n' same
  have opening : ∀ m : Notice, m.kind.opening.toList <+: m.text.toList := by
    intro m
    rw [text_eq, String.append_assoc, String.toList_append]
    exact List.prefix_append _ _
  have kinds : n.kind = n'.kind := by
    rcases List.prefix_or_prefix_of_prefix (opening n) (same ▸ opening n') with h | h
    · exact Kind.eq_of_opening h
    · exact (Kind.eq_of_opening h).symm
  obtain ⟨kind, name⟩ := n
  obtain ⟨kind', name'⟩ := n'
  obtain rfl : kind = kind' := kinds
  rw [text_eq, text_eq, String.append_left_inj, String.append_right_inj] at same
  exact congrArg _ same

end Notice

/-- A reply is a notice, with or without the hint of its family. -/
def Announces (reply : String) (n : Notice) : Prop :=
  reply = n.text ∨ reply = Hint.join n.text FamilyHint.checkout.lines

lemma text_ne_join (n n' : Notice) (lines : List String) : n.text ≠ Hint.join n'.text lines := by
  intro same
  have closing : n.kind.closing.toList <:+ n.text.toList := by
    rw [Notice.text_eq, String.toList_append]
    exact List.suffix_append _ _
  have mark : Hint.endMark <:+ n.text.toList := same ▸ Hint.endMark_suffix n'.text_ne_empty
  rcases List.suffix_or_suffix_of_suffix mark closing with h | h
  · exact n.kind.not_suffix.1 h
  · exact n.kind.not_suffix.2 h

lemma Announces.unique {reply : String} {n n' : Notice} (h : Announces reply n)
    (h' : Announces reply n') : n = n' := by
  rcases h with rfl | rfl <;> rcases h' with same | same
  · exact Notice.text_injective same
  · exact absurd same (text_ne_join _ _ _)
  · exact absurd same.symm (text_ne_join _ _ _)
  · rw [Hint.join_eq n.text_ne_empty, Hint.join_eq n'.text_ne_empty, String.append_left_inj,
      String.append_left_inj] at same
    exact Notice.text_injective same

/-! ### Lines that succeed -/

variable {s s' : Session} {now : Int64} {line reply : String} {c : Command}

lemma done_of_attempt {α : Type} {what : Attempt} {result : Except RepoError α × Workspace}
    {words : α → String} (done : s.attempt what result words = (.ok reply, s')) :
    ∃ a, result = (.ok a, s'.workspace) ∧ reply = words a := by
  obtain ⟨result, w⟩ := result
  cases result with
  | error cause => cases done
  | ok a =>
    obtain ⟨hreply, rfl⟩ := Prod.mk.inj done
    exact ⟨a, rfl, (Except.ok.inj hreply).symm⟩

lemma done_of_checkoutNew {name : String} (done : s.checkoutNew name = (.ok reply, s')) :
    ∃ w, s.workspace.createBranch name = (.ok (), w) ∧
      w.checkout name = (.ok (), s'.workspace) ∧
      reply = s!"Switched to a new branch '{name}'" := by
  unfold checkoutNew at done
  cases create : s.workspace.createBranch name with
  | mk result w =>
    rw [create] at done
    cases result with
    | error cause => cases done
    | ok =>
      obtain ⟨⟨⟩, switch, hreply⟩ := done_of_attempt done
      exact ⟨w, rfl, switch, hreply⟩

lemma done_of_withHint {outcome : Outcome} (done : withHint c outcome = (.ok reply, s')) :
    ∃ text s₁, outcome = (.ok text, s₁) ∧ s'.workspace = s₁.workspace ∧
      (reply = text ∨ ∃ hint, c.hint? = some hint ∧ reply = Hint.join text hint.lines) := by
  obtain ⟨result, s₁⟩ := outcome
  cases result with
  | error e => cases done
  | ok text =>
    refine ⟨text, s₁, rfl, ?_⟩
    rw [withHint] at done
    split at done
    · obtain ⟨hreply, rfl⟩ := Prod.mk.inj done
      exact ⟨rfl, .inl (Except.ok.inj hreply).symm⟩
    · rename_i hint family
      cases attached : s₁.hints.attach hint.key text hint.lines with
      | mk words hints =>
        rw [attached] at done
        obtain ⟨hreply, rfl⟩ := Prod.mk.inj done
        obtain rfl := Except.ok.inj hreply
        refine ⟨rfl, ?_⟩
        rw [HintLog.attach] at attached
        split at attached
        · exact .inl (Prod.mk.inj attached).1.symm
        · exact .inr ⟨hint, family, (Prod.mk.inj attached).1.symm⟩

lemma performed_of_run (read : Command.ofLine line = .ok (some c))
    (done : s.run now line = (.ok reply, s')) :
    ∃ text s₁, s.perform now c = (.ok text, s₁) ∧ s'.workspace = s₁.workspace ∧
      (reply = text ∨ ∃ hint, c.hint? = some hint ∧ reply = Hint.join text hint.lines) := by
  rw [run, read] at done
  simp only [Command.keyOfLine_eq read] at done
  split at done
  · rw [execute] at done
    split at done
    · cases done
    · exact done_of_withHint done
  · cases done

/-! ### Checkouts -/

/-- Whether the reader takes a branch for a commit, or what is no branch for one. -/
def Misled (w : Workspace) : Command → Prop
  | .checkout name => ¬w.HasBranch name
  | .checkoutCommit id => w.HasBranch id
  | _ => False

lemma notice_of_perform (family : c.key = "git checkout")
    (done : s.perform now c = (.ok reply, s')) :
    ∃ n : Notice, reply = n.text ∧ (n.Holds s'.workspace ↔ ¬Misled s.workspace c) := by
  cases c with
  | checkout name =>
    obtain ⟨⟨⟩, switch, rfl⟩ := done_of_attempt done
    exact ⟨⟨.switched, name⟩, rfl, (Workspace.currentBranch_iff switch).1.trans not_not.symm⟩
  | checkoutCommit id =>
    obtain ⟨⟨⟩, switch, rfl⟩ := done_of_attempt done
    exact ⟨⟨.detached, _⟩, rfl, (Workspace.currentBranch_iff switch).2⟩
  | checkoutNew name =>
    obtain ⟨w, create, switch, rfl⟩ := done_of_checkoutNew done
    have known := Workspace.hasBranch_of_createBranch create
    exact ⟨⟨.created, name⟩, rfl, iff_of_true ((Workspace.currentBranch_iff switch).1.2 known) id⟩
  | _ => simp [Command.key] at family

/-- **A reply to a checkout is true unless the reader was misled.** Every checkout that succeeds
announces where the head is. What it announces holds exactly if the word that was read as the name
of a branch is one, and the word that was read as a commit is none. A new branch is always
announced truly. -/
theorem checkout_reply_holds_iff (read : Command.ofLine line = .ok (some c))
    (family : c.key = "git checkout") (done : s.run now line = (.ok reply, s')) :
    (∃ n, Announces reply n) ∧
      ((∀ n, Announces reply n → n.Holds s'.workspace) ↔ ¬Misled s.workspace c) := by
  obtain ⟨text, s₁, performed, same, hreply⟩ := performed_of_run read done
  obtain ⟨n, rfl, holds⟩ := notice_of_perform family performed
  have announces : Announces reply n := by
    rcases hreply with rfl | ⟨hint, hhint, rfl⟩
    · exact .inl rfl
    · have checkout : FamilyHint.checkout = hint := by
        cases c <;> simp [Command.key] at family <;> exact Option.some.inj hhint
      exact .inr (checkout ▸ rfl)
  rw [← same] at holds
  refine ⟨⟨n, announces⟩, fun h => holds.1 (h n announces), fun calm m hm => ?_⟩
  rw [← announces.unique hm]
  exact holds.2 calm

/-- One commit, and a branch whose name is spelled as a commit is. -/
def ambiguousCalls : List Call :=
  [.line 0 "git init", .write "a" "x\n", .line 0 "git add a", .line 0 "git commit -m 1",
    .line 0 "git branch cafe123"]

def ambiguous : Session := (Session.new .inMemory ⟨"", ""⟩).after ambiguousCalls

lemma ambiguous_checkout_branch :
    (ambiguous.run 0 "git checkout cafe123").1 =
        .ok (Hint.join (Reply.detached "dfd15ba") FamilyHint.checkout.lines) ∧
      (ambiguous.run 0 "git checkout cafe123").2.workspace.currentBranch =
        .ok (some "cafe123") := by
  decide +kernel

lemma ambiguous_checkout_head :
    (ambiguous.run 0 "git checkout HEAD").1 =
        .ok (Hint.join "Switched to branch 'HEAD'" FamilyHint.checkout.lines) ∧
      (ambiguous.run 0 "git checkout HEAD").2.workspace.currentBranch = .ok none := by
  decide +kernel

theorem checkout_reply_holds_iff_ambiguous :
    (∃ n, Announces (Hint.join (Reply.detached "dfd15ba") FamilyHint.checkout.lines) n) ∧
      ((∀ n, Announces (Hint.join (Reply.detached "dfd15ba") FamilyHint.checkout.lines) n →
          n.Holds (ambiguous.run 0 "git checkout cafe123").2.workspace) ↔
        ¬Misled ambiguous.workspace (.checkoutCommit "cafe123")) :=
  checkout_reply_holds_iff (by decide +kernel) rfl (Prod.ext ambiguous_checkout_branch.1 rfl)

/-- Among the sessions that calls leave, one is told of a branch after a checkout that has detached
the head. -/
theorem not_checkout_replies_hold :
    ¬∀ (store : Store) (author : Signature) (calls : List Call) (now : Int64) (line : String)
      (c : Command) (reply : String) (s' : Session), Command.ofLine line = .ok (some c) →
      c.key = "git checkout" →
      ((Session.new store author).after calls).run now line = (.ok reply, s') →
      ∀ n, Announces reply n → n.Holds s'.workspace := by
  intro h
  have key := h .inMemory ⟨"", ""⟩ ambiguousCalls 0 "git checkout HEAD" (.checkout "HEAD") _
    (ambiguous.run 0 "git checkout HEAD").2 (by decide +kernel) rfl
    (Prod.ext ambiguous_checkout_head.1 rfl) ⟨.switched, "HEAD"⟩ (.inr rfl)
  have detached := ambiguous_checkout_head.2.symm.trans key
  cases detached

end Session

end GitTutor
