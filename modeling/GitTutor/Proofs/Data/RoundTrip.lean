import GitTutor.Data.Json.Reader
import Mathlib.Tactic.Common

/-!
JSON texts are read back.

The reader of values takes from a text exactly what the compact printer has written and leaves the
rest, whatever characters stand in the names and texts. The bound on the depth is no obstacle, as a
reader inside another one has at least one character less to read (`value?_compact`). Numbers that
are no integers are left out: they are kept as they were written.
-/

namespace GitTutor

mutual

/-- All numbers in a value are integers. -/
def Value.Integral : Value → Prop
  | .scalar _ => False
  | .list items => IntegralItems items
  | .object members => IntegralMembers members
  | _ => True

def Value.IntegralItems : List Value → Prop
  | [] => True
  | v :: vs => v.Integral ∧ IntegralItems vs

def Value.IntegralMembers : List (String × Value) → Prop
  | [] => True
  | m :: ms => m.2.Integral ∧ IntegralMembers ms

end

namespace Json

open Text

/-! ### Texts -/

lemma number?_escape {n : Nat} (h : n < 0x20) :
    number? 16 ['0', '0', hexDigit (n / 16), hexDigit (n % 16)] = some n := by
  revert n
  decide

lemma spellings?_escape (c : Char) (s : List Char) :
    spellings? (escape c ++ s) = (spellings? s).map fun p => (.whole c :: p.1, p.2) := by
  unfold escape
  -- The characters that are escaped by a letter.
  iterate 7
    split
    · rename_i h
      subst h
      rfl
  split
  · rename_i h
    have whole : Spelling.ofNat c.toNat = .whole c := by
      have plain : (isHighSurrogate c.toNat || isLowSurrogate c.toNat) = false := by
        simp only [isHighSurrogate, isLowSurrogate, Bool.or_eq_false_iff, Bool.and_eq_false_iff,
          decide_eq_false_iff_not]
        omega
      rw [Spelling.ofNat, plain, Char.ofNat_toNat]
      rfl
    change spellings? ('\\' :: 'u' :: '0' :: '0' :: _ :: _ :: s) = _
    rw [spellings?, number?_escape h]
    simp only [whole]
  · rename_i notQuote notBackslash _ _ _ _ _ h
    rw [List.singleton_append, spellings?, if_neg h]
    · exact notQuote
    · exact fun _ _ _ _ _ hc _ => notBackslash hc
    · exact fun _ _ hc _ => notBackslash hc

lemma spellings?_flatMap_escape (s rest : List Char) :
    spellings? (s.flatMap escape ++ quote :: rest) = some (s.map .whole, rest) := by
  induction s with
  | nil => rfl
  | cons c s ih =>
    rw [List.flatMap_cons, List.append_assoc, spellings?_escape, ih]
    rfl

lemma joined?_map_whole (s : List Char) : joined? (s.map .whole) = some s := by
  induction s with
  | nil => rfl
  | cons c s ih => rw [List.map_cons, joined?, ih, Option.map_some]

/-! ### Numbers -/

lemma isDigit_of_mem_digits {n : Nat} {c : Char} (h : c ∈ Nat.toDigits 10 n) :
    c.isDigit = true :=
  Nat.isDigit_of_mem_toDigits (by decide) (by decide) h

lemma head?_digits (n : Nat) : (Nat.toDigits 10 n).head? ≠ some '0' ∨ n = 0 := by
  induction n using Nat.strongRecOn with
  | ind n ih =>
    by_cases small : n < 10
    · rw [Nat.toDigits_of_lt_base small]
      clear ih
      revert n
      decide
    · rw [Nat.toDigits_of_base_le (by decide) (Nat.le_of_not_lt small)]
      obtain ⟨d, ds, hd⟩ :=
        List.exists_cons_of_ne_nil (Nat.toDigits_ne_nil (n := n / 10) (b := 10))
      have := ih (n / 10) (by omega)
      rw [hd] at this ⊢
      exact .inl (this.resolve_right (by omega))

lemma natural?_digits (n : Nat) : natural? (Nat.toDigits 10 n) = some n := by
  have leading : (Nat.toDigits 10 n).head? ≠ some '0' ∨ Nat.toDigits 10 n = ['0'] := by
    rcases head?_digits n with h | rfl
    · exact .inl h
    · exact .inr (Nat.toDigits_zero 10)
  have digits : (Nat.toDigits 10 n).all Char.isDigit = true :=
    List.all_eq_true.2 fun c hc => isDigit_of_mem_digits hc
  rw [natural?, if_pos ⟨Nat.toDigits_ne_nil, digits, leading⟩, Nat.ofDigitChars_ten_toDigits]

lemma numeral?_integer (n : Int) : numeral? (integer n) = some (.int n) := by
  cases n with
  | ofNat n =>
    obtain ⟨d, ds, hd⟩ := List.exists_cons_of_ne_nil (Nat.toDigits_ne_nil (n := n) (b := 10))
    have first : d.isDigit = true := isDigit_of_mem_digits (hd ▸ List.mem_cons_self)
    have hn := natural?_digits n
    rw [integer, hd] at *
    rw [numeral?, hn]
    rintro rest ⟨⟩
    cases first
  | negSucc n => rw [integer, numeral?, natural?_digits]

/-- What follows a number in a text does not belong to it. -/
def Apart (rest : List Char) : Prop := ∀ c ∈ rest.head?, isNumberChar c = false

lemma isNumberChar_of_mem_integer {n : Int} {c : Char} (h : c ∈ integer n) :
    isNumberChar c = true := by
  have digit : ∀ {m}, c ∈ Nat.toDigits 10 m → isNumberChar c = true := by
    intro m hm
    rw [isNumberChar, isDigit_of_mem_digits hm]
    rfl
  cases n with
  | ofNat n => exact digit h
  | negSucc n =>
    rcases List.mem_cons.1 h with rfl | h
    · rfl
    · exact digit h

lemma takeWhile_integer {n : Int} {rest : List Char} (apart : Apart rest) :
    (integer n ++ rest).takeWhile isNumberChar = integer n ∧
      (integer n ++ rest).dropWhile isNumberChar = rest := by
  have all : ∀ c ∈ integer n, isNumberChar c = true := fun c hc => isNumberChar_of_mem_integer hc
  have stop : rest.takeWhile isNumberChar = [] ∧ rest.dropWhile isNumberChar = rest := by
    cases rest with
    | nil => exact ⟨rfl, rfl⟩
    | cons c rest =>
      have hc := apart c rfl
      simp [hc]
  rw [List.takeWhile_append_of_pos all, List.dropWhile_append_of_pos all, stop.1, stop.2,
    List.append_nil]
  exact ⟨rfl, rfl⟩

lemma integer_eq_cons (n : Int) : ∃ c s, integer n = c :: s ∧ isNumberChar c = true := by
  have nonempty : integer n ≠ [] := by
    cases n with
    | ofNat n => exact Nat.toDigits_ne_nil
    | negSucc n => exact List.cons_ne_nil _ _
  obtain ⟨c, s, h⟩ := List.exists_cons_of_ne_nil nonempty
  exact ⟨c, s, h, isNumberChar_of_mem_integer (h ▸ List.mem_cons_self)⟩

/-! ### Values -/

lemma skipBlanks_cons {c : Char} (h : isBlank c = false) (s : List Char) :
    skipBlanks (c :: s) = c :: s :=
  List.dropWhile_cons_of_neg (by rw [h]; exact Bool.false_ne_true)

lemma isBlank_eq_false_of_isNumberChar {c : Char} (h : isNumberChar c = true) :
    isBlank c = false := by
  by_contra hb
  simp only [isBlank, Bool.not_eq_false, Bool.or_eq_true, decide_eq_true_eq] at hb
  rcases hb with ((rfl | rfl) | rfl) | rfl <;> cases h

lemma compact_eq_cons {v : Value} (integral : v.Integral) :
    ∃ c s, compact v = c :: s ∧ isBlank c = false ∧ c ≠ ']' := by
  cases v with
  | null => exact ⟨_, _, rfl, by decide, by decide⟩
  | bool b => cases b <;> exact ⟨_, _, rfl, by decide, by decide⟩
  | int n =>
    obtain ⟨c, s, h, hc⟩ := integer_eq_cons n
    refine ⟨c, s, h, isBlank_eq_false_of_isNumberChar hc, ?_⟩
    rintro rfl
    cases hc
  | scalar literal => exact integral.elim
  | text s => exact ⟨_, _, rfl, by decide, by decide⟩
  | list items => exact ⟨_, _, rfl, by decide, by decide⟩
  | object members => exact ⟨_, _, rfl, by decide, by decide⟩

lemma compactItems_eq_cons {v : Value} (integral : v.Integral) (vs : List Value) :
    ∃ c s, compactItems (v :: vs) = c :: s ∧ isBlank c = false ∧ c ≠ ']' := by
  obtain ⟨c, s, h, hc⟩ := compact_eq_cons integral
  cases vs with
  | nil => exact ⟨c, s ++ [']'], by rw [compactItems, h, List.cons_append], hc⟩
  | cons w vs =>
    exact ⟨c, s ++ ',' :: compactItems (w :: vs), by rw [compactItems, h, List.cons_append], hc⟩

lemma value?_integer {n : Int} {depth : Nat} {rest : List Char} (apart : Apart rest) :
    value? (depth + 1) (integer n ++ rest) = some (.int n, rest) := by
  obtain ⟨taken, dropped⟩ := takeWhile_integer (n := n) apart
  obtain ⟨c, s, h, hc⟩ := integer_eq_cons n
  have other : ∀ d, isNumberChar d = false → c ≠ d := by
    rintro d hd rfl
    rw [hc] at hd
    cases hd
  rw [h, List.cons_append] at taken dropped
  rw [h, List.cons_append, value?, skipBlanks_cons (isBlank_eq_false_of_isNumberChar hc)]
  simp only [taken, dropped]
  rw [if_neg (other quote (by decide)), if_neg (other '[' (by decide)),
    if_neg (other openBrace (by decide)), if_neg (other 'n' (by decide)),
    if_neg (other 't' (by decide)), if_neg (other 'f' (by decide)), ← h, numeral?_integer]
  rfl

lemma value?_quoted (s : String) (depth : Nat) (rest : List Char) :
    value? (depth + 1) (quoted s.toList ++ rest) = some (.text s, rest) := by
  change (spellings? (s.toList.flatMap escape ++ [quote] ++ rest)).map _ = _
  rw [List.append_assoc, List.singleton_append, spellings?_flatMap_escape, Option.map_some]
  simp only [joined?_map_whole, Option.map_some, orWritten, Option.getD_some, String.ofList_toList]

lemma value?_list {c : Char} (notBlank : isBlank c = false) (notEnd : c ≠ ']') (depth : Nat)
    (s : List Char) : value? (depth + 1) ('[' :: c :: s) =
      (items? depth (c :: s)).map fun p => (.list p.1, p.2) := by
  rw [value?, skipBlanks_cons (show isBlank '[' = false by decide)]
  simp only [skipBlanks_cons notBlank]
  rw [if_neg (show '[' ≠ quote by decide), if_pos trivial]
  split
  · rename_i heq
    cases heq
    exact absurd rfl notEnd
  · rfl

lemma members?_quoted (name : String) (depth : Nat) (s : List Char) :
    members? (depth + 1) (quoted name.toList ++ ':' :: s) =
      (value? depth s).bind fun (v, rest) =>
        match skipBlanks rest with
        | '\x7d' :: rest => some (some [(name, v)], rest)
        | ',' :: rest =>
          (members? depth rest).map fun (ms, rest) => (ms.map ((name, v) :: ·), rest)
        | _ => none := by
  have named : ∀ v ms, member? (name.toList.map .whole) v ms = ms.map ((name, v) :: ·) := by
    intro v ms
    rw [member?, joined?_map_whole, Option.bind_some, String.ofList_toList]
  change (spellings? (name.toList.flatMap escape ++ [quote] ++ ':' :: s)).bind _ = _
  rw [List.append_assoc, List.singleton_append, spellings?_flatMap_escape, Option.bind_some]
  simp only [skipBlanks_cons (show isBlank ':' = false by decide), named]
  rfl

mutual

/-- **What the compact printer writes is read back.** -/
lemma value?_compact : ∀ (v : Value), v.Integral → ∀ {depth : Nat} {rest : List Char},
    (compact v).length ≤ depth → Apart rest → value? depth (compact v ++ rest) = some (v, rest)
  | v, integral, 0, rest, bound, _ => by
    obtain ⟨c, s, h, -⟩ := compact_eq_cons integral
    rw [h] at bound
    exact absurd bound (by simp)
  | .null, _, depth + 1, rest, _, _ => rfl
  | .bool true, _, depth + 1, rest, _, _ => rfl
  | .bool false, _, depth + 1, rest, _, _ => rfl
  | .int n, _, depth + 1, rest, _, apart => value?_integer apart
  | .text s, _, depth + 1, rest, _, _ => value?_quoted s depth rest
  | .list [], _, depth + 1, rest, _, _ => rfl
  | .list (v :: vs), integral, depth + 1, rest, bound, _ => by
    obtain ⟨c, s, h, notBlank, notEnd⟩ := compactItems_eq_cons integral.1 vs
    have read : items? depth (compactItems (v :: vs) ++ rest) = some (v :: vs, rest) :=
      items?_compact v vs integral (Nat.le_of_succ_le_succ bound)
    rw [h, List.cons_append] at read
    rw [compact, h, List.cons_append, List.cons_append, value?_list notBlank notEnd, read]
    rfl
  | .object [], _, depth + 1, rest, _, _ => rfl
  | .object ((name, v) :: ms), integral, depth + 1, rest, bound, _ => by
    have read : members? depth (compactMembers ((name, v) :: ms) ++ rest) =
        some (some ((name, v) :: ms), rest) :=
      members?_compact name v ms integral (Nat.le_of_succ_le_succ bound)
    obtain ⟨s, h⟩ : ∃ s, compactMembers ((name, v) :: ms) = quote :: s := by
      cases ms <;> exact ⟨_, rfl⟩
    rw [h, List.cons_append] at read
    rw [compact, h, List.cons_append, List.cons_append]
    change (members? depth (quote :: (s ++ rest))).map _ = _
    rw [read]
    rfl

lemma items?_compact : ∀ (v : Value) (vs : List Value), Value.IntegralItems (v :: vs) →
    ∀ {depth : Nat} {rest : List Char}, (compactItems (v :: vs)).length ≤ depth →
    items? depth (compactItems (v :: vs) ++ rest) = some (v :: vs, rest)
  | v, vs, integral, 0, rest, bound => by
    obtain ⟨c, s, h, -⟩ := compactItems_eq_cons integral.1 vs
    rw [h] at bound
    exact absurd bound (by simp)
  | v, [], integral, depth + 1, rest, bound => by
    rw [compactItems, List.length_append, List.length_singleton] at bound
    rw [compactItems, List.append_assoc, items?,
      value?_compact v integral.1 (Nat.le_of_succ_le_succ bound) (fun c hc => by cases hc; rfl)]
    rfl
  | v, w :: vs, integral, depth + 1, rest, bound => by
    rw [compactItems, List.length_append, List.length_cons] at bound
    rw [compactItems, List.append_assoc, items?,
      value?_compact v integral.1 (by omega) (fun c hc => by cases hc; rfl), Option.bind_some,
      List.cons_append]
    change (items? depth (compactItems (w :: vs) ++ rest)).map (fun p => (v :: p.1, p.2)) = _
    rw [items?_compact w vs integral.2 (by omega)]
    rfl

lemma members?_compact : ∀ (name : String) (v : Value) (ms : List (String × Value)),
    Value.IntegralMembers ((name, v) :: ms) → ∀ {depth : Nat} {rest : List Char},
    (compactMembers ((name, v) :: ms)).length ≤ depth →
    members? depth (compactMembers ((name, v) :: ms) ++ rest) = some (some ((name, v) :: ms), rest)
  | name, v, ms, _, 0, rest, bound => by
    obtain ⟨s, h⟩ : ∃ s, compactMembers ((name, v) :: ms) = quote :: s := by
      cases ms <;> exact ⟨_, rfl⟩
    rw [h] at bound
    exact absurd bound (by simp)
  | name, v, [], integral, depth + 1, rest, bound => by
    simp only [compactMembers, List.length_append, List.length_cons] at bound
    rw [compactMembers, List.append_assoc, List.append_assoc, List.cons_append, members?_quoted,
      value?_compact v integral.1 (by omega) (fun c hc => by cases hc; rfl)]
    rfl
  | name, v, (name', v') :: ms, integral, depth + 1, rest, bound => by
    simp only [compactMembers, List.length_append, List.length_cons] at bound
    rw [compactMembers, List.append_assoc, List.append_assoc, List.cons_append, members?_quoted,
      List.cons_append,
      value?_compact v integral.1 (by omega) (fun c hc => by cases hc; rfl), Option.bind_some]
    change (members? depth (compactMembers ((name', v') :: ms) ++ rest)).map
      (fun p => (p.1.map ((name, v) :: ·), p.2)) = _
    rw [members?_compact name' v' ms integral.2 (by omega)]
    rfl

end

lemma ofText?_toLine {v : Value} (integral : v.Integral) : ofText? (toLine v) = some v := by
  have bound : (compact v).length ≤ 2 * (String.ofList (compact v)).length + 2 := by
    rw [String.length_ofList]
    omega
  have apart : Apart [] := fun c hc => by cases hc
  have read := value?_compact v integral bound apart
  rw [List.append_nil] at read
  rw [toLine, ofText?, String.toList_ofList, read]
  rfl

end Json

end GitTutor
