import GitTutor.Command.Reader
import GitTutor.Proofs.Text.EditDistance
import Mathlib.Data.List.MinMax
import Mathlib.Order.Bounds.Basic
import Mathlib.Tactic.Common

/-!
The command that is suggested for an unknown one.

The reader gives up at one of five places, each of which knows the words of a family of commands by
then. A suggestion goes on after these words. Among the entries of the vocabulary that do, it is the
one that the fewest edits make of a start of the tokens, and the first of several (`Nearest`).
-/

namespace GitTutor.Suggestion

open Text

/-! ### What is to be suggested -/

/-- The words of an entry. -/
def wordsOf (entry : String) : List (List Char) := entry.toList.splitOn ' '

/-- The entry has the words of `scope` and at least one more after them. -/
def Extends (scope : List String) (entry : String) : Prop :=
  scope.map String.toList <+: wordsOf entry ∧ scope.length < (wordsOf entry).length

/-- The least number of edits that make the entry of the first tokens of a line, of which there may
be as many as the entry has words. -/
def Away (tokens : List String) (entry : String) (d : Nat) : Prop :=
  IsLeast {n | ∃ j, 1 ≤ j ∧ j ≤ min (wordsOf entry).length tokens.length ∧
    Turns n (" ".intercalate (tokens.take j)).toList entry.toList} d

/-- Of all entries after `scope` the nearest to the tokens, and the first one at its distance. -/
structure Nearest (tokens scope : List String) (entry : String) (d : Nat) : Prop where
  listed : entry ∈ vocabulary
  inScope : Extends scope entry
  away : Away tokens entry d
  least : ∀ other ∈ vocabulary, Extends scope other → ∀ n, Away tokens other n → d ≤ n
  first : ∀ other ∈ vocabulary, Extends scope other → Away tokens other d →
    vocabulary.idxOf entry ≤ vocabulary.idxOf other

/-- The words that the reader recognizes before it gives up on a line. -/
def families : List (List String) :=
  [[], ["git"], ["git", "remote"], ["git", "pages"], ["github"], ["github", "pr"]]

/-- The longest family that a row of tokens begins with. -/
structure Recognized (tokens scope : List String) : Prop where
  family : scope ∈ families
  start : scope <+: tokens
  longest : ∀ other ∈ families, other <+: tokens → other.length ≤ scope.length

variable {tokens scope : List String} {entry : String}

lemma Recognized.unique {scope' : List String} (h : Recognized tokens scope)
    (h' : Recognized tokens scope') : scope' = scope := by
  have shorter := h.longest scope' h'.family h'.start
  have longer := h'.longest scope h.family h.start
  exact (List.prefix_of_prefix_length_le h'.start h.start shorter).eq_of_length_le longer

/-! ### Scopes -/

lemma intercalate_append {words rest : List (List Char)} (hw : words ≠ []) (hr : rest ≠ []) :
    [' '].intercalate (words ++ rest) =
      [' '].intercalate words ++ ' ' :: [' '].intercalate rest := by
  induction words with
  | nil => exact absurd rfl hw
  | cons w words ih =>
    cases words with
    | nil =>
      obtain ⟨r, rest, rfl⟩ := List.exists_cons_of_ne_nil hr
      simp
    | cons w' words =>
      have := ih (by simp)
      simp only [List.cons_append, List.intercalate_cons_cons] at this ⊢
      simp [this]

lemma intercalate_prefix_iff {words : List (List Char)} {s : List Char} (hw : words ≠ [])
    (solid : ∀ w ∈ words, ' ' ∉ w) :
    [' '].intercalate words ++ [' '] <+: s ↔
      words <+: s.splitOn ' ' ∧ words.length < (s.splitOn ' ').length := by
  constructor
  · rintro ⟨rest, rfl⟩
    have split : ([' '].intercalate words ++ [' '] ++ rest).splitOn ' ' =
        words ++ rest.splitOn ' ' := by
      rw [List.append_assoc, List.singleton_append, List.splitOn_eq_splitOnP,
        List.splitOnP_append_cons _ _ (by simp), ← List.splitOn_eq_splitOnP,
        ← List.splitOn_eq_splitOnP, List.splitOn_intercalate ' ' solid hw]
    have := List.length_pos_iff.2 (List.splitOn_ne_nil ' ' rest)
    rw [split, List.length_append]
    exact ⟨List.prefix_append words _, by omega⟩
  · rintro ⟨⟨rest, hs⟩, longer⟩
    have hr : rest ≠ [] := by
      rintro rfl
      rw [← hs, List.append_nil] at longer
      omega
    have joined : [' '].intercalate (s.splitOn ' ') = s := List.intercalate_splitOn ' '
    refine ⟨[' '].intercalate rest, ?_⟩
    rw [← joined, ← hs, intercalate_append hw hr, List.append_assoc, List.singleton_append]

lemma inScope_iff (family : scope ∈ families) :
    InScope (" ".intercalate scope) entry ↔ Extends scope entry := by
  have solid : ∀ scope ∈ families, ∀ w ∈ scope.map String.toList, ' ' ∉ w := by decide +kernel
  have named : ∀ scope ∈ families, scope ≠ [] → " ".intercalate scope ≠ "" := by decide +kernel
  by_cases hnil : scope = []
  · subst hnil
    have := List.length_pos_iff.2 (List.splitOn_ne_nil ' ' entry.toList)
    exact iff_of_true (.inl rfl) ⟨List.nil_prefix, this⟩
  · rw [InScope, or_iff_right (named scope family hnil), String.toList_intercalate]
    refine (intercalate_prefix_iff ?_ (solid scope family)).trans ?_
    · simpa using hnil
    · rw [Extends, List.length_map]
      rfl

/-! ### Distances -/

/-- The number to which `Away` leads. -/
def away (tokens : List String) (entry : String) : Nat := (distances tokens entry).min?.getD 0

lemma mem_distances_iff {n : Nat} : n ∈ distances tokens entry ↔
    ∃ j, 1 ≤ j ∧ j ≤ min (wordsOf entry).length tokens.length ∧
      n = distance (" ".intercalate (tokens.take j)) entry := by
  rw [distances, List.mem_map]
  constructor
  · rintro ⟨j, hj, rfl⟩
    exact ⟨j + 1, by omega, List.mem_range.1 hj, rfl⟩
  · rintro ⟨j, hpos, hle, rfl⟩
    refine ⟨j - 1, List.mem_range.2 (Nat.sub_one_lt_of_le hpos hle), ?_⟩
    rw [Nat.sub_add_cancel hpos]

lemma min?_distances (hne : tokens ≠ []) (entry : String) :
    (distances tokens entry).min? = some (away tokens entry) := by
  have hwords := List.length_pos_iff.2 (List.splitOn_ne_nil ' ' entry.toList)
  have htokens := List.length_pos_iff.2 hne
  have hdist : distances tokens entry ≠ [] := by
    refine List.ne_nil_of_mem (mem_distances_iff.2 ⟨1, Nat.le_refl 1, ?_, rfl⟩)
    exact Nat.le_min.2 ⟨hwords, htokens⟩
  obtain ⟨d, hd⟩ := Option.ne_none_iff_exists'.1 (mt List.min?_eq_none_iff.1 hdist)
  rw [away, hd]
  rfl

lemma away_spec (hne : tokens ≠ []) (entry : String) : Away tokens entry (away tokens entry) := by
  obtain ⟨hmem, hle⟩ := List.min?_eq_some_iff.1 (min?_distances hne entry)
  constructor
  · obtain ⟨j, hpos, hj, heq⟩ := mem_distances_iff.1 hmem
    refine ⟨j, hpos, hj, ?_⟩
    rw [heq]
    exact turns_editDistance _ _
  · rintro n ⟨j, hpos, hj, turns⟩
    have hmin := hle _ (mem_distances_iff.2 ⟨j, hpos, hj, rfl⟩)
    have := editDistance_le_of_turns turns
    exact Nat.le_trans hmin this

lemma away_iff (hne : tokens ≠ []) {d : Nat} : Away tokens entry d ↔ d = away tokens entry := by
  constructor
  · intro h
    exact IsLeast.unique h (away_spec hne entry)
  · rintro rfl
    exact away_spec hne entry

/-! ### The choice -/

lemma firstLeast_map (f : String → Nat) (es : List String) :
    firstLeast (es.map fun e => (f e, e)) = (es.argmin f).map fun e => (f e, e) := by
  induction es with
  | nil => rfl
  | cons e es ih =>
    rw [List.map_cons, firstLeast, ih, List.argmin_cons]
    cases es.argmin f with
    | none => rfl
    | some least =>
      by_cases closer : f least < f e
      · simp [closer, Nat.not_le.2 closer]
      · simp [closer, Nat.not_lt.1 closer]

lemma closest?_eq (hne : tokens ≠ []) (scope : String) :
    closest? tokens scope = ((vocabulary.filter (InScope scope ·)).argmin (away tokens)).filter
      fun e => away tokens e ≤ reach := by
  have rated : (vocabulary.filter (InScope scope ·)).filterMap (fun e =>
        (distances tokens e).min?.map (·, e)) =
      (vocabulary.filter (InScope scope ·)).map fun e => (away tokens e, e) := by
    rw [← List.filterMap_eq_map]
    refine List.filterMap_congr fun e _ => ?_
    rw [min?_distances hne]
    rfl
  rw [closest?, rated, firstLeast_map]
  cases (vocabulary.filter (InScope scope ·)).argmin (away tokens) with
  | none => rfl
  | some e => simp [Option.filter]

lemma idxOf_filter_le_iff {p : String → Bool} {es : List String} {a b : String}
    (ha : a ∈ es.filter p) (hb : b ∈ es.filter p) :
    (es.filter p).idxOf a ≤ (es.filter p).idxOf b ↔ es.idxOf a ≤ es.idxOf b := by
  induction es with
  | nil => cases ha
  | cons e es ih =>
    have hpa := (List.mem_filter.1 ha).2
    have hpb := (List.mem_filter.1 hb).2
    by_cases hp : p e = true
    · rw [List.filter_cons_of_pos hp] at ha hb ⊢
      by_cases hea : e = a
      · simp [hea]
      · by_cases heb : e = b
        · subst heb
          simp [hea]
        · have ha' := (List.mem_cons.1 ha).resolve_left (Ne.symm hea)
          have hb' := (List.mem_cons.1 hb).resolve_left (Ne.symm heb)
          simp [hea, heb, ih ha' hb']
    · rw [List.filter_cons_of_neg hp] at ha hb ⊢
      have hea : e ≠ a := by
        rintro rfl
        exact hp hpa
      have heb : e ≠ b := by
        rintro rfl
        exact hp hpb
      simp [hea, heb, ih ha hb]

lemma mem_candidates_iff (family : scope ∈ families) :
    entry ∈ vocabulary.filter (InScope (" ".intercalate scope) ·) ↔
      entry ∈ vocabulary ∧ Extends scope entry := by
  rw [List.mem_filter, decide_eq_true_eq, inScope_iff family]

/-- **What is suggested after a family is the nearest entry within reach.** -/
lemma closest?_eq_some_iff (hne : tokens ≠ []) (family : scope ∈ families) :
    closest? tokens (" ".intercalate scope) = some entry ↔
      ∃ d ≤ reach, Nearest tokens scope entry d := by
  rw [closest?_eq hne, Option.filter_eq_some_iff, List.argmin_eq_some_iff, decide_eq_true_eq]
  constructor
  · rintro ⟨⟨listed, least, first⟩, near⟩
    obtain ⟨hentry, inScope⟩ := (mem_candidates_iff family).1 listed
    refine ⟨away tokens entry, near, hentry, inScope, away_spec hne entry, ?_, ?_⟩
    · intro other hother inScope n hn
      rw [away_iff hne] at hn
      exact hn ▸ least other ((mem_candidates_iff family).2 ⟨hother, inScope⟩)
    · intro other hother inScope same
      have hother := (mem_candidates_iff family).2 ⟨hother, inScope⟩
      have hle := first other hother (Nat.le_of_eq ((away_iff hne).1 same).symm)
      exact (idxOf_filter_le_iff listed hother).1 hle
  · rintro ⟨d, near, nearest⟩
    obtain rfl := (away_iff hne).1 nearest.away
    have listed := (mem_candidates_iff family).2 ⟨nearest.listed, nearest.inScope⟩
    refine ⟨⟨listed, ?_, ?_⟩, near⟩
    · intro other hother
      obtain ⟨hother, inScope⟩ := (mem_candidates_iff family).1 hother
      exact nearest.least other hother inScope _ (away_spec hne other)
    · intro other hother hle
      obtain ⟨hother', inScope⟩ := (mem_candidates_iff family).1 hother
      have hge := nearest.least other hother' inScope _ (away_spec hne other)
      have same := (away_iff hne).2 (Nat.le_antisymm hge hle)
      exact (idxOf_filter_le_iff listed hother).2 (nearest.first other hother' inScope same)

lemma closest?_eq_none_iff (hne : tokens ≠ []) (family : scope ∈ families) :
    closest? tokens (" ".intercalate scope) = none ↔
      ∀ entry ∈ vocabulary, Extends scope entry → ∀ d, Away tokens entry d → reach < d := by
  rw [closest?_eq hne, Option.filter_eq_none_iff]
  constructor
  · intro far entry listed inScope d hd
    obtain rfl := (away_iff hne).1 hd
    have listed := (mem_candidates_iff family).2 ⟨listed, inScope⟩
    have nonempty := List.ne_nil_of_mem listed
    obtain ⟨least, hleast⟩ :=
      Option.ne_none_iff_exists'.1 (mt (List.argmin_eq_none (f := away tokens)).1 nonempty)
    have hfar := far least hleast
    have hle := List.le_of_mem_argmin listed hleast
    rw [decide_eq_true_eq] at hfar
    omega
  · intro far least hleast
    obtain ⟨listed, inScope⟩ := (mem_candidates_iff family).1 (List.argmin_mem hleast)
    have := far least listed inScope _ (away_spec hne least)
    rw [decide_eq_true_eq]
    omega

end GitTutor.Suggestion

namespace GitTutor.Command

open Suggestion

variable {tokens args : List String} {input : String} {suggestion : Option String}

/-! ### The places at which the reader gives up -/

lemma error_of_bind {α β : Type} {x : Except ReadError α} {f : α → Except ReadError β}
    {e : ReadError} (h : (x >>= f) = .error e) :
    x = .error e ∨ ∃ a, x = .ok a ∧ f a = .error e := by
  cases x with
  | error e' => exact .inl (congrArg Except.error (Except.error.inj h))
  | ok a => exact .inr ⟨a, rfl, h⟩

lemma error_of_return {α β : Type} {f : α → β} {x : Except ReadError α} {e : ReadError}
    (h : (do return f (← x)) = Except.error e) : x = .error e := by
  rcases error_of_bind h with h | ⟨_, _, h⟩
  · exact h
  · cases h

lemma argument_ne_unknown {i : Nat} {usage : Usage} :
    argument args i usage ≠ .error (.unknown input suggestion) := by
  unfold argument
  split <;> exact fun h => by cases h

lemma message_ne_unknown : message args ≠ .error (.unknown input suggestion) := by
  unfold message
  split
  · exact fun h => by cases h
  · dsimp only
    split <;> exact fun h => by cases h

lemma request_ne_unknown : request args ≠ .error (.unknown input suggestion) := by
  unfold request
  split <;> exact fun h => by cases h

/-- The reader has recognized the words `scope`, and gives up on the tokens. -/
def GivesUp (tokens scope : List String) (e : ReadError) : Prop :=
  Recognized tokens scope ∧ e = unknown tokens (" ".intercalate scope)

lemma recognized_none (git : ∀ rest, tokens ≠ "git" :: rest)
    (github : ∀ rest, tokens ≠ "github" :: rest) : Recognized tokens [] where
  family := by decide
  start := List.nil_prefix
  longest other hother := by
    rintro ⟨rest, rfl⟩
    simp only [families, List.mem_cons, List.not_mem_nil, or_false] at hother
    rcases hother with rfl | rfl | rfl | rfl | rfl | rfl
    · exact Nat.le_refl 0
    · exact absurd rfl (git _)
    · exact absurd rfl (git _)
    · exact absurd rfl (git _)
    · exact absurd rfl (github _)
    · exact absurd rfl (github _)

lemma recognized_git (remote : ∀ rest, args ≠ "remote" :: rest)
    (pages : ∀ rest, args ≠ "pages" :: rest) : Recognized ("git" :: args) ["git"] where
  family := by decide
  start := ⟨args, rfl⟩
  longest other hother hstart := by
    simp only [families, List.mem_cons, List.not_mem_nil, or_false] at hother
    rcases hother with rfl | rfl | rfl | rfl | rfl | rfl
    · exact Nat.zero_le 1
    · exact Nat.le_refl 1
    · obtain ⟨rest, rfl⟩ := (List.cons_prefix_cons.1 hstart).2
      exact absurd rfl (remote rest)
    · obtain ⟨rest, rfl⟩ := (List.cons_prefix_cons.1 hstart).2
      exact absurd rfl (pages rest)
    · exact Nat.le_refl 1
    · exact absurd (List.cons_prefix_cons.1 hstart).1 (by decide)

lemma recognized_github (requests : ∀ rest, args ≠ "pr" :: rest) :
    Recognized ("github" :: args) ["github"] where
  family := by decide
  start := ⟨args, rfl⟩
  longest other hother hstart := by
    simp only [families, List.mem_cons, List.not_mem_nil, or_false] at hother
    rcases hother with rfl | rfl | rfl | rfl | rfl | rfl
    · exact Nat.zero_le 1
    · exact Nat.le_refl 1
    · exact absurd (List.cons_prefix_cons.1 hstart).1 (by decide)
    · exact absurd (List.cons_prefix_cons.1 hstart).1 (by decide)
    · exact Nat.le_refl 1
    · obtain ⟨rest, rfl⟩ := (List.cons_prefix_cons.1 hstart).2
      exact absurd rfl (requests rest)

lemma recognized_pair {a b : String} (family : [a, b] ∈ families) (args : List String) :
    Recognized (a :: b :: args) [a, b] where
  family := family
  start := ⟨args, rfl⟩
  longest := by
    have : ∀ other ∈ families, other.length ≤ 2 := by decide
    exact fun other hother _ => this other hother

lemma givesUp_of_remoteTokens
    (h : ofRemoteTokens ("git" :: "remote" :: args) args = .error (.unknown input suggestion)) :
    GivesUp ("git" :: "remote" :: args) ["git", "remote"] (.unknown input suggestion) := by
  unfold ofRemoteTokens at h
  split at h
  · cases h
  · cases h
  · rcases error_of_bind h with h | ⟨name, -, h⟩
    · exact absurd h argument_ne_unknown
    · exact absurd (error_of_return h) argument_ne_unknown
  · exact absurd (error_of_return h) argument_ne_unknown
  · exact absurd (error_of_return h) argument_ne_unknown
  · exact ⟨recognized_pair (by decide) args, (Except.error.inj h).symm⟩

lemma givesUp_of_gitTokens
    (h : ofGitTokens ("git" :: args) args = .error (.unknown input suggestion)) :
    ∃ scope, GivesUp ("git" :: args) scope (.unknown input suggestion) := by
  unfold ofGitTokens at h
  split at h
  · cases h
  · cases h
  · cases h
  · split at h <;> cases h
  · exact absurd (error_of_return h) message_ne_unknown
  · cases h
  · split at h <;> cases h
  · split at h
    · cases h
    · exact absurd (error_of_return h) argument_ne_unknown
    · cases h
  · exact absurd (error_of_return h) argument_ne_unknown
  · cases h
  · cases h
  · cases h
  · exact absurd (error_of_return h) argument_ne_unknown
  · exact ⟨_, givesUp_of_remoteTokens h⟩
  · split at h
    · cases h
    · cases h
    · cases h
    · exact ⟨_, recognized_pair (by decide) _, (Except.error.inj h).symm⟩
  · rename_i remote pages
    exact ⟨["git"], recognized_git remote pages, (Except.error.inj h).symm⟩

lemma givesUp_of_hostTokens
    (h : ofHostTokens ("github" :: args) args = .error (.unknown input suggestion)) :
    ∃ scope, GivesUp ("github" :: args) scope (.unknown input suggestion) := by
  unfold ofHostTokens at h
  split at h
  · cases h
  · exact absurd (error_of_return h) argument_ne_unknown
  · cases h
  · split at h
    · cases h
    · exact absurd h request_ne_unknown
    · cases h
    · split at h <;> cases h
    · exact ⟨_, recognized_pair (by decide) _, (Except.error.inj h).symm⟩
  · rename_i requests
    exact ⟨["github"], recognized_github requests, (Except.error.inj h).symm⟩

lemma givesUp_of_unknown (h : ofTokens tokens = .error (.unknown input suggestion)) :
    ∃ scope, GivesUp tokens scope (.unknown input suggestion) := by
  unfold ofTokens at h
  split at h
  · cases h
  · cases h
  · cases h
  · cases h
  · exact absurd (error_of_return h) argument_ne_unknown
  · exact absurd (error_of_return h) argument_ne_unknown
  · exact givesUp_of_gitTokens (error_of_return h)
  · exact givesUp_of_hostTokens (error_of_return h)
  · rename_i git github
    exact ⟨[], recognized_none git github, (Except.error.inj h).symm⟩

/-- **An unknown command is met with the nearest one.** The reader repeats the tokens of the line.
Among the entries of the vocabulary that go on after the words that it has recognized, it suggests
the one that the fewest edits make of a start of the tokens, the first of several, if three edits
are enough; and none only if every such entry is further away. -/
theorem suggests_nearest {line : String}
    (unread : ofLine line = .error (.unknown input suggestion)) :
    let tokens := Token.ofLine line
    input = " ".intercalate tokens ∧ (∃ scope, Recognized tokens scope) ∧
      (∀ entry ∈ vocabulary, ∃ d, Away tokens entry d) ∧
      ∀ scope, Recognized tokens scope →
        (∀ entry, suggestion = some entry ↔ ∃ d ≤ 3, Nearest tokens scope entry d) ∧
          (suggestion = none ↔
            ∀ entry ∈ vocabulary, Extends scope entry → ∀ d, Away tokens entry d → 3 < d) := by
  intro tokens
  obtain ⟨scope, recognized, he⟩ := givesUp_of_unknown unread
  obtain ⟨rfl, rfl⟩ := ReadError.unknown.inj he
  have hne : tokens ≠ [] := by
    intro hnil
    rw [ofLine, show Token.ofLine line = [] from hnil] at unread
    cases unread
  refine ⟨rfl, ⟨scope, recognized⟩, fun entry _ => ⟨_, away_spec hne entry⟩, ?_⟩
  intro scope' recognized'
  obtain rfl := recognized.unique recognized'
  exact ⟨fun entry => closest?_eq_some_iff hne recognized.family,
    closest?_eq_none_iff hne recognized.family⟩

/-- Two edits make `git push` of the line, and two make `git pull`, which comes later. -/
theorem suggests_nearest_tied :
    ofLine "git pu" = .error (.unknown "git pu" (some "git push")) ∧
      Recognized ["git", "pu"] ["git"] ∧ ∃ d ≤ 3, Nearest ["git", "pu"] ["git"] "git push" d := by
  have unread : ofLine "git pu" = .error (.unknown "git pu" (some "git push")) := by
    decide +kernel
  have tokens : Token.ofLine "git pu" = ["git", "pu"] := by decide +kernel
  have recognized : Recognized ["git", "pu"] ["git"] :=
    recognized_git (by simp) (by simp)
  obtain ⟨-, -, -, suggested⟩ := suggests_nearest unread
  rw [tokens] at suggested
  exact ⟨unread, recognized, ((suggested ["git"] recognized).1 "git push").1 rfl⟩

end GitTutor.Command
