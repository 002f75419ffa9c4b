import GitTutor.Command.Token
import Mathlib.Tactic.Common

/-!
Lines that spell tokens.

A token stands in a line as it is, or in quotes that it does not contain, and blanks stand around
the tokens in any number. A line of this kind is read as the tokens that it spells
(`ofLine_of_spells`), however they are written.
-/

namespace GitTutor.Token

open Text

/-- A token that can stand without quotes. -/
structure Plain (token : List Char) : Prop where
  nonempty : token ≠ []
  solid : ∀ c ∈ token, isBlank c = false
  unquoted : ∀ c ∈ token.head?, isQuote c = false

instance (token : List Char) : Decidable (Plain token) :=
  haveI : Decidable (∀ c ∈ token, isBlank c = false) :=
    List.decidableBAll (isBlank · = false) token
  haveI : Decidable (∀ c ∈ token.head?, isQuote c = false) :=
    Option.decidableForallMem token.head?
  decidable_of_iff
    (token ≠ [] ∧ (∀ c ∈ token, isBlank c = false) ∧ ∀ c ∈ token.head?, isQuote c = false)
    ⟨fun h => ⟨h.1, h.2.1, h.2.2⟩, fun h => ⟨h.nonempty, h.solid, h.unquoted⟩⟩

/-- How a token may stand in a line. -/
inductive Stands : List Char → List Char → Prop
  | bare {token : List Char} (plain : Plain token) : Stands token token
  | quoted {token : List Char} {quote : Char} (mark : isQuote quote = true)
      (absent : quote ∉ token) : Stands token (quote :: (token ++ [quote]))

/-- The text spells the tokens: they stand in it one after another, with blanks between them and
perhaps around them. -/
inductive Spells : List (List Char) → List Char → Prop
  | done : Spells [] []
  | blank {tokens : List (List Char)} {c : Char} {text : List Char} (gap : isBlank c = true)
      (rest : Spells tokens text) : Spells tokens (c :: text)
  | token {tokens : List (List Char)} {token written text : List Char}
      (stands : Stands token written) (apart : ∀ c ∈ text.head?, isBlank c = true)
      (rest : Spells tokens text) : Spells (token :: tokens) (written ++ text)

/-! ### Scans -/

variable {tokens : List (List Char)} {token written text : List Char}

lemma isQuote_eq_false_of_isBlank {c : Char} (h : isBlank c = true) : isQuote c = false := by
  by_contra hq
  rw [Bool.not_eq_false, isQuote, Bool.or_eq_true, decide_eq_true_eq, decide_eq_true_eq] at hq
  rcases hq with rfl | rfl <;> cases h

lemma scan_word_apart (apart : ∀ c ∈ text.head?, isBlank c = true) :
    scan (.word token) text = token :: scan .between text := by
  cases text with
  | nil => rfl
  | cons c text =>
    have hc := apart c rfl
    rw [scan, if_pos hc, scan, isQuote_eq_false_of_isBlank hc, hc, if_neg Bool.false_ne_true,
      if_pos rfl]

lemma scan_word_append (solid : ∀ c ∈ token, isBlank c = false) (sofar : List Char) :
    scan (.word sofar) (token ++ text) = scan (.word (sofar ++ token)) text := by
  induction token generalizing sofar with
  | nil => simp
  | cons c token ih =>
    have hc := solid c List.mem_cons_self
    rw [List.cons_append, scan, hc, if_neg Bool.false_ne_true,
      ih (fun d hd => solid d (List.mem_cons_of_mem _ hd)), List.append_assoc,
      List.singleton_append]

lemma scan_quoted_append {quote : Char} (absent : quote ∉ token) (sofar : List Char) :
    scan (.quoted quote sofar) (token ++ quote :: text) = scan (.word (sofar ++ token)) text := by
  induction token generalizing sofar with
  | nil => simp [scan]
  | cons c token ih =>
    obtain ⟨hne, absent⟩ := not_or.1 (mt List.mem_cons.2 absent)
    rw [List.cons_append, scan, if_neg (Ne.symm hne), ih absent, List.append_assoc,
      List.singleton_append]

lemma scan_stands (stands : Stands token written) :
    scan .between (written ++ text) = scan (.word token) text := by
  cases stands with
  | bare plain =>
    obtain ⟨nonempty, solid, unquoted⟩ := plain
    cases token with
    | nil => exact absurd rfl nonempty
    | cons c token =>
      have hc := solid c List.mem_cons_self
      have hq := unquoted c rfl
      rw [List.cons_append, scan, hq, hc, if_neg Bool.false_ne_true, if_neg Bool.false_ne_true,
        scan_word_append (fun d hd => solid d (List.mem_cons_of_mem _ hd)), List.singleton_append]
  | quoted mark absent =>
    rw [List.cons_append, List.append_assoc, List.singleton_append, scan, mark, if_pos rfl,
      scan_quoted_append absent, List.nil_append]

lemma scan_spells (h : Spells tokens text) : scan .between text = tokens := by
  induction h with
  | done => rfl
  | blank gap _ ih =>
    rw [scan, isQuote_eq_false_of_isBlank gap, if_neg Bool.false_ne_true, if_pos gap, ih]
  | token stands apart _ ih => rw [scan_stands stands, scan_word_apart apart, ih]

/-- **A line that spells tokens is read as these tokens.** -/
lemma ofLine_of_spells {tokens : List String} {line : String}
    (h : Spells (tokens.map String.toList) line.toList) : ofLine line = tokens := by
  rw [ofLine, scan_spells h, List.map_map]
  simp

end GitTutor.Token
