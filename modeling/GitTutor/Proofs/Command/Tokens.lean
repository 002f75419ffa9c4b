import GitTutor.Proofs.Command.Spelling
import GitTutor.Proofs.Session.Gate

/-!
What is read from a line, token by token.

Tokens that are laid out in a line, each as it is or in quotes, and with blanks between them, are
read back. In a line without quotes the tokens are its words. A line without tokens is one of
blanks alone, whatever quotes do elsewhere: once a token has begun, it is read.
-/

namespace GitTutor.Token

open Text

/-! ### Lines that are laid out -/

/-- A token in a line: the blanks in front of it, and how it is written. -/
structure Placed where
  gap : List Char
  token : List Char
  written : List Char
  blank : AllBlank gap
  stands : Stands token written

def Placed.text (p : Placed) : List Char := p.gap ++ p.written

lemma spells_blank {tokens : List (List Char)} {gap text : List Char} (blank : AllBlank gap)
    (h : Spells tokens text) : Spells tokens (gap ++ text) := by
  induction gap with
  | nil => exact h
  | cons c gap ih =>
    have hc := blank c List.mem_cons_self
    have hgap : AllBlank gap := fun d hd => blank d (List.mem_cons_of_mem c hd)
    exact .blank hc (ih hgap)

lemma blank_of_head {ps : List Placed} {ending : List Char} (apart : ∀ p ∈ ps, p.gap ≠ [])
    (blank : AllBlank ending) :
    ∀ c ∈ (ps.flatMap Placed.text ++ ending).head?, isBlank c = true := by
  intro c hc
  cases ps with
  | nil => exact blank c (List.mem_of_mem_head? hc)
  | cons p ps =>
    obtain ⟨d, gap, hgap⟩ := List.exists_cons_of_ne_nil (apart p List.mem_cons_self)
    have hd : isBlank d = true := p.blank d (hgap ▸ List.mem_cons_self)
    rw [List.flatMap_cons, Placed.text, hgap] at hc
    cases hc
    exact hd

lemma spells_placed {ps : List Placed} {ending : List Char} (apart : ∀ p ∈ ps.tail, p.gap ≠ [])
    (blank : AllBlank ending) :
    Spells (ps.map (·.token)) (ps.flatMap Placed.text ++ ending) := by
  induction ps with
  | nil =>
    have := spells_blank blank Spells.done
    simpa using this
  | cons p ps ih =>
    have rest := ih fun q hq => apart q (List.mem_of_mem_tail hq)
    have first := Spells.token p.stands (blank_of_head apart blank) rest
    have := spells_blank p.blank first
    simpa [Placed.text] using this

/-! ### Lines without quotes -/

/-- Without quotes, a scan cuts a line at its blanks. A token that has begun before goes on with the
first piece. -/
lemma scan_unquoted {s : List Char} (unquoted : ∀ c ∈ s, isQuote c = false) :
    scan .between s = words s ∧ ∀ w ≠ [], scan (.word w) s =
      ((s.splitOnP isBlank).modifyHead (w ++ ·)).filter (· ≠ []) := by
  induction s with
  | nil =>
    refine ⟨rfl, fun w hw => ?_⟩
    simp [scan, hw]
  | cons c s ih =>
    have hq := unquoted c List.mem_cons_self
    obtain ⟨between, word⟩ := ih fun d hd => unquoted d (List.mem_cons_of_mem c hd)
    rw [words, List.splitOnP_cons_eq_if_modifyHead]
    by_cases hc : isBlank c = true
    · refine ⟨?_, fun w hw => ?_⟩
      · simp [scan, hq, hc, between, words]
      · simp [scan, hc, hw, between, words]
    · refine ⟨?_, fun w hw => ?_⟩
      · have := word [c] (List.cons_ne_nil c [])
        simpa [scan, hq, hc] using this
      · have := word (w ++ [c]) (by simp)
        simpa [scan, hc, Function.comp_def] using this

/-! ### Lines without tokens -/

lemma scan_ne_nil (s : List Char) :
    (∀ w, scan (.word w) s ≠ []) ∧ ∀ q w, scan (.quoted q w) s ≠ [] := by
  induction s with
  | nil => exact ⟨fun w => List.cons_ne_nil w [], fun q w => List.cons_ne_nil w []⟩
  | cons c s ih =>
    obtain ⟨word, quoted⟩ := ih
    refine ⟨fun w => ?_, fun q w => ?_⟩
    · rw [scan]
      split
      · exact List.cons_ne_nil w _
      · exact word _
    · rw [scan]
      split
      · exact word w
      · exact quoted q _

lemma scan_eq_nil_iff {s : List Char} : scan .between s = [] ↔ AllBlank s := by
  induction s with
  | nil => exact iff_of_true rfl fun c hc => by cases hc
  | cons c s ih =>
    by_cases hc : isBlank c = true
    · rw [scan, isQuote_eq_false_of_isBlank hc, if_neg Bool.false_ne_true, if_pos hc, ih]
      simp [AllBlank, hc]
    · have solid : ¬AllBlank (c :: s) := fun h => hc (h c List.mem_cons_self)
      refine iff_of_false ?_ solid
      rw [scan]
      by_cases hq : isQuote c = true
      · rw [if_pos hq]
        exact (scan_ne_nil s).2 c []
      · rw [if_neg hq, if_neg hc]
        exact (scan_ne_nil s).1 [c]

lemma ofLine_eq_nil_iff {line : String} : ofLine line = [] ↔ AllBlank line.toList := by
  rw [ofLine, List.map_eq_nil_iff, scan_eq_nil_iff]

end GitTutor.Token

namespace GitTutor.Command

open Text

lemma ofTokens_eq_none_iff {tokens : List String} : ofTokens tokens = .ok none ↔ tokens = [] := by
  constructor
  · intro h
    unfold ofTokens at h
    split at h
    · rfl
    all_goals first
      | cases h
      | (obtain ⟨_, _, h⟩ := ok_of_return h
         cases h)
  · rintro rfl
    rfl

/-- **The tokens of a line are those that it was made of.** Tokens that are laid out in a line are
read back, whatever the blanks and the quotes are. A line without quotes is cut at its blanks. And
only a line of blanks has no tokens, so that it is the only one on which the reader finds no
command. -/
theorem tokens_laid_out :
    (∀ (ps : List Token.Placed) (ending : List Char), (∀ p ∈ ps.tail, p.gap ≠ []) →
      AllBlank ending → Token.ofLine (String.ofList (ps.flatMap Token.Placed.text ++ ending)) =
        ps.map fun p => String.ofList p.token) ∧
      (∀ line : String, (∀ c ∈ line.toList, Token.isQuote c = false) →
        Token.ofLine line = (words line.toList).map String.ofList) ∧
      ∀ line : String, (Token.ofLine line = [] ↔ AllBlank line.toList) ∧
        (ofLine line = .ok none ↔ AllBlank line.toList) := by
  refine ⟨fun ps ending apart blank => ?_, fun line unquoted => ?_, fun line => ?_⟩
  · rw [Token.ofLine, String.toList_ofList, Token.scan_spells (Token.spells_placed apart blank),
      List.map_map]
    rfl
  · rw [Token.ofLine, (Token.scan_unquoted unquoted).1]
  · refine ⟨Token.ofLine_eq_nil_iff, ?_⟩
    rw [ofLine, ofTokens_eq_none_iff, Token.ofLine_eq_nil_iff]

/-- A word with an apostrophe, an empty token, and one that has a blank and double quotes. -/
def sampleTokens : List Token.Placed :=
  [⟨[' '], "it's".toList, "it's".toList, by decide, .bare (by decide)⟩,
    ⟨['\t'], [], "\"\"".toList, by decide, .quoted rfl (by decide)⟩,
    ⟨[' ', ' '], "a \"b\"".toList, "'a \"b\"'".toList, by decide, .quoted rfl (by decide)⟩]

theorem tokens_laid_out_sample :
    (∀ p ∈ sampleTokens.tail, p.gap ≠ []) ∧ AllBlank [' '] ∧
      Token.ofLine (String.ofList (sampleTokens.flatMap Token.Placed.text ++ [' '])) =
        ["it's", "", "a \"b\""] ∧
      (∀ c ∈ " git  log".toList, Token.isQuote c = false) ∧
      Token.ofLine " git  log" = ["git", "log"] := by
  have apart : ∀ p ∈ sampleTokens.tail, p.gap ≠ [] := by simp [sampleTokens]
  have blank : AllBlank [' '] := by decide
  have unquoted : ∀ c ∈ " git  log".toList, Token.isQuote c = false := by
    simp [Token.isQuote]
  have pieces : (words " git  log".toList).map String.ofList = ["git", "log"] := by decide
  obtain ⟨placed, cut, -⟩ := tokens_laid_out
  exact ⟨apart, blank, placed sampleTokens [' '] apart blank, unquoted,
    (cut " git  log" unquoted).trans pieces⟩

end GitTutor.Command
