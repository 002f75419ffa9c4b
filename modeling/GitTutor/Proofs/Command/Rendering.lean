import GitTutor.Proofs.Command.Spelling
import GitTutor.Proofs.Session.Gate

/-!
Commands written as lines.

A command is written as the words that choose it and its arguments in quotes (`Command.line`). What
is read from a line is always well-formed, and a well-formed command is read from each line that
spells it, in particular from its own, so that no argument is ever taken for a word or an option.
-/

namespace GitTutor.Command

/-- The two spellings of the option that gives a title. -/
def IsTitleOption (a : String) : Prop := a = "-t" ∨ a = "--title"

/-- The arguments that would be read as something else are left out. -/
def WellFormed : Command → Prop
  | add file => file ≠ "."
  | commit message => ¬Text.AllBlank message.toList
  | checkout name => name ≠ "-b" ∧ isCommitId name = false
  | checkoutCommit id => isCommitId id = true
  | requestCreate source target _ =>
    ¬IsTitleOption source ∧ ∀ name ∈ target, ¬IsTitleOption name
  | requestMerge id => 0 < id
  | _ => True

/-! ### Writing -/

/-- A part of a line. -/
inductive Piece where
  /-- A word that belongs to the command itself. -/
  | word (word : String)
  | argument (argument : String)

namespace Piece

/-- What the part is read as. -/
def token : Piece → String
  | word w => w
  | argument a => a

/-- Arguments stand in double quotes, and in single ones if they contain a double one. -/
def text : Piece → String
  | word w => w
  | argument a => if '"' ∈ a.toList then "'" ++ a ++ "'" else "\"" ++ a ++ "\""

end Piece

/-- Words and the arguments that belong to them. -/
def given (words args : List String) : List Piece := words.map .word ++ args.map .argument

/-- The parts of the line that gives a command. -/
def pieces : Command → List Piece
  | help => given ["help"] []
  | ls => given ["ls"] []
  | cat file => given ["cat"] [file]
  | touch file => given ["touch"] [file]
  | pwd => given ["pwd"] []
  | init => given ["git", "init"] []
  | status => given ["git", "status"] []
  | add file => given ["git", "add"] [file]
  | addAll => given ["git", "add", "."] []
  | commit message => given ["git", "commit", "-m"] [message]
  | log reference => given ["git", "log"] reference.toList
  | branches => given ["git", "branch"] []
  | branch name => given ["git", "branch"] [name]
  | checkout name => given ["git", "checkout"] [name]
  | checkoutNew name => given ["git", "checkout", "-b"] [name]
  | checkoutCommit id => given ["git", "checkout"] [id]
  | merge name => given ["git", "merge"] [name]
  | conflicts => given ["git", "conflicts"] []
  | push remote name => given ["git", "push"] (remote :: name.toList)
  | pull remote name => given ["git", "pull"] (remote :: name.toList)
  | clone url => given ["git", "clone"] [url]
  | remotes false => given ["git", "remote"] []
  | remotes true => given ["git", "remote", "-v"] []
  | remoteAdd name url => given ["git", "remote", "add"] [name, url]
  | remoteRemove name => given ["git", "remote", "remove"] [name]
  | publish => given ["git", "pages", "publish"] []
  | republish => given ["git", "pages", "republish"] []
  | hostCreate name => given ["github", "create"] [name]
  | hostStatus => given ["github", "status"] []
  | requestCreate source target title =>
    given ["github", "pr", "create"] (source :: target.toList) ++
      title.toList.flatMap fun t => given ["-t"] [t]
  | requests => given ["github", "pr", "list"] []
  | requestMerge id => given ["github", "pr", "merge"] [id.toNat.repr]

/-- The tokens of a command. -/
def tokens (c : Command) : List String := c.pieces.map (·.token)

/-- The line that gives a command. -/
def line (c : Command) : String := " ".intercalate (c.pieces.map (·.text))

/-- Each argument lacks one kind of quotes. -/
def Quotable (c : Command) : Prop :=
  ∀ a, Piece.argument a ∈ c.pieces → '"' ∉ a.toList ∨ '\'' ∉ a.toList

/-! ### The line of a command spells its tokens -/

lemma Piece.stands_argument {a : String} (quotable : '"' ∉ a.toList ∨ '\'' ∉ a.toList) :
    Token.Stands a.toList (argument a).text.toList := by
  rw [text]
  split
  · rename_i double
    have single : '\'' ∉ a.toList := quotable.resolve_left (not_not.2 double)
    have stands : Token.Stands a.toList ('\'' :: (a.toList ++ ['\''])) := .quoted rfl single
    simpa using stands
  · rename_i double
    have stands : Token.Stands a.toList ('"' :: (a.toList ++ ['"'])) := .quoted rfl double
    simpa using stands

lemma plain_of_mem_pieces {c : Command} {w : String} (h : Piece.word w ∈ c.pieces) :
    Token.Plain w.toList := by
  have plain : ∀ {words args}, (∀ w ∈ words, Token.Plain w.toList) →
      Piece.word w ∈ given words args → Token.Plain w.toList := by
    intro words args hplain hmem
    rcases List.mem_append.1 hmem with hmem | hmem
    · obtain ⟨_, hw, ⟨⟩⟩ := List.mem_map.1 hmem
      exact hplain w hw
    · obtain ⟨_, _, ⟨⟩⟩ := List.mem_map.1 hmem
  cases c with
  | remotes verbose => cases verbose <;> exact plain (by decide +kernel) h
  | requestCreate source target title =>
    rcases List.mem_append.1 h with h | h
    · exact plain (by decide +kernel) h
    · obtain ⟨_, -, h⟩ := List.mem_flatMap.1 h
      exact plain (by decide +kernel) h
  | _ => exact plain (by decide +kernel) h

lemma stands_of_mem_pieces {c : Command} (quotable : c.Quotable) {p : Piece} (h : p ∈ c.pieces) :
    Token.Stands p.token.toList p.text.toList := by
  cases p with
  | word w => exact .bare (plain_of_mem_pieces h)
  | argument a => exact Piece.stands_argument (quotable a h)

lemma spells_intercalate {ps : List Piece}
    (stands : ∀ p ∈ ps, Token.Stands p.token.toList p.text.toList) :
    Token.Spells (ps.map (·.token.toList)) (" ".intercalate (ps.map (·.text))).toList := by
  induction ps with
  | nil => exact .done
  | cons p ps ih =>
    have first := stands p List.mem_cons_self
    have rest := ih fun q hq => stands q (List.mem_cons_of_mem _ hq)
    cases ps with
    | nil =>
      have := Token.Spells.token first (fun c hc => by cases hc) .done
      simpa using this
    | cons q ps =>
      have := Token.Spells.token first (fun c hc => ?_) (.blank (c := ' ') rfl rest)
      · simpa [String.intercalate_cons_cons] using this
      · cases hc
        rfl

lemma spells_line {c : Command} (quotable : c.Quotable) :
    Token.Spells (c.tokens.map String.toList) c.line.toList := by
  have := spells_intercalate fun p => stands_of_mem_pieces quotable (p := p)
  rwa [tokens, List.map_map]

/-! ### Reading what is written -/

lemma titled_given {args : List String} (plain : ∀ a ∈ args, ¬IsTitleOption a)
    (title : Option String) :
    titled (args ++ title.toList.flatMap (["-t", ·])) = some (args, title) := by
  induction args with
  | nil => cases title <;> rfl
  | cons a args ih =>
    have ha : ¬(a = "-t" ∨ a = "--title") := plain a List.mem_cons_self
    rw [List.cons_append, titled.eq_def]
    simp only
    rw [if_neg ha, ih fun b hb => plain b (List.mem_cons_of_mem _ hb)]
    rfl

lemma requestId?_repr {id : UInt64} (positive : 0 < id) :
    requestId? id.toNat.repr = some id := by
  have digits : ∀ c ∈ Nat.toDigits 10 id.toNat, c.isDigit = true := fun c hc =>
    Nat.isDigit_of_mem_toDigits (by decide) (by decide) hc
  have value : Nat.ofDigitChars 10 (Nat.toDigits 10 id.toNat) 0 = id.toNat :=
    Nat.ofDigitChars_ten_toDigits
  obtain ⟨d, ds, hd⟩ := List.exists_cons_of_ne_nil (Nat.toDigits_ne_nil (n := id.toNat) (b := 10))
  rw [hd] at digits value
  have first := digits d List.mem_cons_self
  have noHash : (d :: ds).dropWhile (· = '#') = d :: ds := by
    rw [List.dropWhile_cons_of_neg]
    rw [decide_eq_true_eq]
    rintro rfl
    cases first
  simp only [requestId?, Nat.toList_repr, hd, noHash]
  split
  · rename_i plus
    cases plus
    cases first
  · rw [value, if_pos ⟨List.cons_ne_nil d ds, List.all_eq_true.2 digits,
      UInt64.lt_iff_toNat_lt.1 positive, id.toNat_lt⟩, UInt64.ofNat_toNat]

/-- **The tokens of a well-formed command are read as this command.** -/
lemma ofTokens_tokens {c : Command} (h : c.WellFormed) : ofTokens c.tokens = .ok (some c) := by
  cases c with
  | add file =>
    have hfile : file ≠ "." := h
    simp [ofTokens, ofGitTokens, tokens, pieces, given, Piece.token, hfile]
  | commit text =>
    have solid : ¬Text.AllBlank text.toList := h
    have hmessage : message ["-m", text] = .ok text := by
      simp [message, solid]
    change (do return some (← (do return commit (← message ["-m", text])))) = _
    rw [hmessage]
    rfl
  | log reference => cases reference <;> rfl
  | checkout name =>
    obtain ⟨hne, hid⟩ := h
    simp [ofTokens, ofGitTokens, tokens, pieces, given, Piece.token, hid]
  | checkoutCommit id =>
    have hid : isCommitId id = true := h
    have hne : id ≠ "-b" := by
      rintro rfl
      exact absurd hid (by decide +kernel)
    simp [ofTokens, ofGitTokens, tokens, pieces, given, Piece.token, hid]
  | push remote name => cases name <;> rfl
  | pull remote name => cases name <;> rfl
  | remotes verbose => cases verbose <;> rfl
  | requestCreate source target title =>
    obtain ⟨hsource, htarget⟩ := h
    have plain : ∀ a ∈ source :: target.toList, ¬IsTitleOption a := by
      intro a ha
      rcases List.mem_cons.1 ha with rfl | ha
      · exact hsource
      · exact htarget a (Option.mem_toList.1 ha)
    have hread := titled_given plain title
    have htokens : (requestCreate source target title).tokens =
        "github" :: "pr" :: "create" :: (source :: target.toList ++
          title.toList.flatMap (["-t", ·])) := by
      cases target <;> cases title <;> rfl
    rw [htokens]
    change (do return some (← request (source :: target.toList ++
      title.toList.flatMap (["-t", ·])))) = _
    rw [request, hread]
    cases target <;> rfl
  | requestMerge id =>
    have positive : 0 < id := h
    have hid := requestId?_repr positive
    simp [ofTokens, ofHostTokens, tokens, pieces, given, Piece.token, hid]
  | _ => rfl

/-! ### What is read is well-formed -/

variable {tokens args : List String} {c : Command}

lemma solid_of_message {text : String} (h : message args = .ok text) :
    ¬Text.AllBlank text.toList := by
  unfold message at h
  split at h
  · cases h
  · dsimp only at h
    split at h
    · cases h
    · rename_i solid
      exact Except.ok.inj h ▸ solid

lemma not_isTitleOption_of_titled {rest : List String} {title : Option String}
    (h : titled args = some (rest, title)) : ∀ a ∈ rest, ¬IsTitleOption a := by
  fun_induction titled args generalizing rest title with
  | case1 =>
    cases h
    exact fun a ha => absurd ha List.not_mem_nil
  | case2 => cases h
  | case3 a ha title' args ih =>
    obtain ⟨⟨rest', title''⟩, htitled, ⟨⟩⟩ := Option.map_eq_some_iff.1 h
    exact ih htitled
  | case4 a args ha ih =>
    obtain ⟨⟨rest', title''⟩, htitled, ⟨⟩⟩ := Option.map_eq_some_iff.1 h
    intro b hb
    rcases List.mem_cons.1 hb with rfl | hb
    · exact ha
    · exact ih htitled b hb

lemma wellFormed_of_request (h : request args = .ok c) : c.WellFormed := by
  unfold request at h
  split at h
  · rename_i source rest title htitled
    obtain rfl := Except.ok.inj h
    have plain := not_isTitleOption_of_titled htitled
    refine ⟨plain source List.mem_cons_self, fun name hname => plain name ?_⟩
    exact List.mem_cons_of_mem _ (List.mem_of_mem_head? hname)
  · cases h

lemma requestId?_pos {s : String} {id : UInt64} (h : requestId? s = some id) : 0 < id := by
  simp only [requestId?, Option.ite_none_right_eq_some, Option.some.injEq] at h
  obtain ⟨⟨-, -, positive, small⟩, rfl⟩ := h
  rw [UInt64.lt_iff_toNat_lt, UInt64.toNat_ofNat_of_lt' small]
  exact positive

lemma wellFormed_of_remoteTokens (h : ofRemoteTokens tokens args = .ok c) : c.WellFormed := by
  unfold ofRemoteTokens at h
  split at h
  · exact Except.ok.inj h ▸ trivial
  · exact Except.ok.inj h ▸ trivial
  · rename_i rest
    cases ha : argument rest 0 .remoteAdd with
    | error e =>
      rw [ha] at h
      cases h
    | ok name =>
      rw [ha] at h
      obtain ⟨url, -, rfl⟩ := ok_of_return h
      trivial
  · obtain ⟨name, -, rfl⟩ := ok_of_return h
    trivial
  · obtain ⟨name, -, rfl⟩ := ok_of_return h
    trivial
  · cases h

lemma wellFormed_of_gitTokens (h : ofGitTokens tokens args = .ok c) : c.WellFormed := by
  unfold ofGitTokens at h
  -- One case for each second token, in the order of the reader.
  split at h
  · cases h
  · exact Except.ok.inj h ▸ trivial
  · exact Except.ok.inj h ▸ trivial
  · split at h
    · cases h
    · rename_i file _
      obtain rfl := Except.ok.inj h
      split
      · trivial
      · rename_i hfile
        exact hfile
  · obtain ⟨text, htext, rfl⟩ := ok_of_return h
    exact solid_of_message htext
  · exact Except.ok.inj h ▸ trivial
  · split at h <;> exact Except.ok.inj h ▸ trivial
  · split at h
    · cases h
    · obtain ⟨name, -, rfl⟩ := ok_of_return h
      trivial
    · rename_i reference _ hne
      obtain rfl := Except.ok.inj h
      split
      · rename_i hid
        exact hid
      · rename_i hid
        exact ⟨hne, Bool.eq_false_iff.2 hid⟩
  · obtain ⟨name, -, rfl⟩ := ok_of_return h
    trivial
  · exact Except.ok.inj h ▸ trivial
  · exact Except.ok.inj h ▸ trivial
  · exact Except.ok.inj h ▸ trivial
  · obtain ⟨url, -, rfl⟩ := ok_of_return h
    trivial
  · exact wellFormed_of_remoteTokens h
  · split at h
    · cases h
    · exact Except.ok.inj h ▸ trivial
    · exact Except.ok.inj h ▸ trivial
    · cases h
  · cases h

lemma wellFormed_of_hostTokens (h : ofHostTokens tokens args = .ok c) : c.WellFormed := by
  unfold ofHostTokens at h
  split at h
  · cases h
  · obtain ⟨name, -, rfl⟩ := ok_of_return h
    trivial
  · exact Except.ok.inj h ▸ trivial
  · split at h
    · cases h
    · exact wellFormed_of_request h
    · exact Except.ok.inj h ▸ trivial
    · split at h
      · rename_i id hid
        obtain ⟨s, -, hs⟩ := Option.bind_eq_some_iff.1 hid
        exact Except.ok.inj h ▸ requestId?_pos hs
      · cases h
    · cases h
  · cases h

lemma wellFormed_of_line {line : String} (h : ofLine line = .ok (some c)) : c.WellFormed := by
  unfold ofLine ofTokens at h
  split at h
  · cases h
  · exact Option.some.inj (Except.ok.inj h) ▸ trivial
  · exact Option.some.inj (Except.ok.inj h) ▸ trivial
  · exact Option.some.inj (Except.ok.inj h) ▸ trivial
  · obtain ⟨file, -, hc⟩ := ok_of_return h
    exact Option.some.inj hc ▸ trivial
  · obtain ⟨file, -, hc⟩ := ok_of_return h
    exact Option.some.inj hc ▸ trivial
  · obtain ⟨c', hgit, hc⟩ := ok_of_return h
    exact Option.some.inj hc ▸ wellFormed_of_gitTokens hgit
  · obtain ⟨c', hhost, hc⟩ := ok_of_return h
    exact Option.some.inj hc ▸ wellFormed_of_hostTokens hhost
  · cases h

/-- **Reading inverts writing.** What is read from a line is well-formed. A well-formed command is
read from its line, if its arguments can be quoted, and from every other line that spells its
tokens. -/
theorem read_back (c : Command) :
    (∀ line, ofLine line = .ok (some c) → c.WellFormed) ∧
      (c.WellFormed →
        (c.Quotable → ofLine c.line = .ok (some c)) ∧
          ∀ line, Token.Spells (c.tokens.map String.toList) line.toList →
            ofLine line = .ok (some c)) := by
  have spelled : c.WellFormed → ∀ line,
      Token.Spells (c.tokens.map String.toList) line.toList → ofLine line = .ok (some c) := by
    intro h line spells
    rw [ofLine, Token.ofLine_of_spells spells, ofTokens_tokens h]
  exact ⟨fun line => wellFormed_of_line, fun h =>
    ⟨fun quotable => spelled h c.line (spells_line quotable), spelled h⟩⟩

/-- A request whose title contains double quotes. -/
def quotingRequest : Command := .requestCreate "feature" none (some "Add \"about\"")

/-- Its line has the branch in double quotes and the title in single ones. -/
theorem read_back_request :
    quotingRequest.WellFormed ∧ quotingRequest.Quotable ∧
      quotingRequest.line = "github pr create \"feature\" -t 'Add \"about\"'" ∧
      ofLine quotingRequest.line = .ok (some quotingRequest) := by
  have wellFormed : quotingRequest.WellFormed := by
    simp [quotingRequest, WellFormed, IsTitleOption]
  have quotable : quotingRequest.Quotable := by
    simp [quotingRequest, Quotable, pieces, given]
  exact ⟨wellFormed, quotable, by decide +kernel,
    ((read_back quotingRequest).2 wellFormed).1 quotable⟩

end GitTutor.Command
