import GitTutor.Command.Suggestion
import Mathlib.Order.Bounds.Defs
import Mathlib.Tactic.Common

/-!
What the distance between two texts counts.

An edit inserts, deletes or replaces one character anywhere in a text. The cells of the table of
distances satisfy a recursion over the two texts from their ends (`fewest`). Edits of that number
turn the one text into the other, and fewer cannot, as no edit brings a text closer to another one
by more than one. So the last cell is the least number of edits between the texts.
-/

namespace GitTutor.Text

/-- One character of the first text is inserted, deleted or replaced in the second. -/
inductive Edit : List Char → List Char → Prop
  | insert (before after : List Char) (c : Char) : Edit (before ++ after) (before ++ c :: after)
  | delete (before after : List Char) (c : Char) : Edit (before ++ c :: after) (before ++ after)
  | replace (before after : List Char) (c d : Char) :
      Edit (before ++ c :: after) (before ++ d :: after)

/-- So many edits, one after another, turn the first text into the second. -/
inductive Turns : Nat → List Char → List Char → Prop
  | done (a : List Char) : Turns 0 a a
  | edit {n : Nat} {a b c : List Char} (first : Edit a b) (rest : Turns n b c) : Turns (n + 1) a c

variable {n : Nat} {a b c : List Char}

lemma Edit.cons (x : Char) (h : Edit a b) : Edit (x :: a) (x :: b) := by
  cases h with
  | insert before after c => exact .insert (x :: before) after c
  | delete before after c => exact .delete (x :: before) after c
  | replace before after c d => exact .replace (x :: before) after c d

lemma Edit.reverse (h : Edit a b) : Edit a.reverse b.reverse := by
  cases h with
  | insert before after c => simpa using Edit.insert after.reverse before.reverse c
  | delete before after c => simpa using Edit.delete after.reverse before.reverse c
  | replace before after c d => simpa using Edit.replace after.reverse before.reverse c d

lemma Turns.cons (x : Char) (h : Turns n a b) : Turns n (x :: a) (x :: b) := by
  induction h with
  | done a => exact .done (x :: a)
  | edit first _ ih => exact .edit (first.cons x) ih

lemma Turns.reverse (h : Turns n a b) : Turns n a.reverse b.reverse := by
  induction h with
  | done a => exact .done a.reverse
  | edit first _ ih => exact .edit first.reverse ih

/-! ### The recursion -/

/-- The number of edits between two texts, by their first characters: these are matched, or one of
them is left out. -/
def fewest : List Char → List Char → Nat
  | [], b => b.length
  | a, [] => a.length
  | c :: a, d :: b =>
    min (fewest a b + if c = d then 0 else 1) (min (fewest a (d :: b) + 1) (fewest (c :: a) b + 1))
termination_by a b => a.length + b.length

@[simp] lemma fewest_nil (b : List Char) : fewest [] b = b.length := by
  rw [fewest]

@[simp] lemma fewest_nil_right (a : List Char) : fewest a [] = a.length := by
  cases a <;> simp [fewest]

lemma fewest_cons (x y : Char) (a b : List Char) :
    fewest (x :: a) (y :: b) = min (fewest a b + if x = y then 0 else 1)
      (min (fewest a (y :: b) + 1) (fewest (x :: a) b + 1)) := by
  rw [fewest]

lemma fewest_self (a : List Char) : fewest a a = 0 := by
  induction a with
  | nil => simp
  | cons x a ih => simp [fewest_cons, ih]

/-! ### So many edits are enough -/

lemma turns_length (b : List Char) : Turns b.length [] b := by
  induction b with
  | nil => exact .done []
  | cons x b ih => exact .edit (.insert [] [] x) (ih.cons x)

lemma turns_length_right (a : List Char) : Turns a.length a [] := by
  induction a with
  | nil => exact .done []
  | cons x a ih => exact .edit (.delete [] a x) ih

lemma turns_fewest (a b : List Char) : Turns (fewest a b) a b := by
  fun_induction fewest a b with
  | case1 b => exact turns_length b
  | case2 a _ => exact turns_length_right a
  | case3 x a y b matched deleted inserted =>
    have hmatch : Turns (fewest a b + if x = y then 0 else 1) (x :: a) (y :: b) := by
      split
      · rename_i same
        exact same ▸ matched.cons x
      · exact .edit (.replace [] a x y) (matched.cons y)
    have hdelete : Turns (fewest a (y :: b) + 1) (x :: a) (y :: b) :=
      .edit (.delete [] a x) deleted
    have hinsert : Turns (fewest (x :: a) b + 1) (x :: a) (y :: b) :=
      .edit (.insert [] (x :: a) y) (inserted.cons y)
    obtain h | h | h : fewest (x :: a) (y :: b) = fewest a b + (if x = y then 0 else 1) ∨
        fewest (x :: a) (y :: b) = fewest a (y :: b) + 1 ∨
        fewest (x :: a) (y :: b) = fewest (x :: a) b + 1 := by
      rw [fewest_cons]
      omega
    all_goals rw [← fewest_cons, h]
    · exact hmatch
    · exact hdelete
    · exact hinsert

/-! ### Fewer edits are not -/

lemma fewest_cons_right_le (a : List Char) (y : Char) (b : List Char) :
    fewest a (y :: b) ≤ fewest a b + 1 := by
  cases a with
  | nil => simp
  | cons x a =>
    rw [fewest_cons]
    omega

lemma fewest_cons_le (x : Char) (a b : List Char) : fewest (x :: a) b ≤ fewest a b + 1 := by
  cases b with
  | nil => simp
  | cons y b =>
    rw [fewest_cons]
    omega

lemma fewest_le_cons (x : Char) (a b : List Char) : fewest a b ≤ fewest (x :: a) b + 1 := by
  induction b with
  | nil =>
    simp only [fewest_nil_right, List.length_cons]
    omega
  | cons y b ih =>
    have := fewest_cons_right_le a y b
    rw [fewest_cons]
    split <;> omega

lemma fewest_replace_le (x y : Char) (a b : List Char) :
    fewest (x :: a) b ≤ fewest (y :: a) b + 1 := by
  induction b with
  | nil => simp
  | cons z b ih =>
    rw [fewest_cons, fewest_cons]
    split <;> split <;> omega

lemma fewest_cons_mono {x : Char} (h : ∀ c, fewest a c ≤ fewest b c + 1) (c : List Char) :
    fewest (x :: a) c ≤ fewest (x :: b) c + 1 := by
  induction c with
  | nil =>
    have := h []
    simp only [fewest_nil_right, List.length_cons] at this ⊢
    omega
  | cons z c ih =>
    have hmatch := h c
    have hdelete := h (z :: c)
    rw [fewest_cons, fewest_cons]
    omega

lemma fewest_le_of_edit (h : Edit a b) (c : List Char) : fewest a c ≤ fewest b c + 1 := by
  -- Up to the place of the edit both texts are the same.
  have behind : ∀ {a b : List Char}, (∀ c, fewest a c ≤ fewest b c + 1) →
      ∀ (before c : List Char), fewest (before ++ a) c ≤ fewest (before ++ b) c + 1 := by
    intro a b hab before
    induction before with
    | nil => exact hab
    | cons x before ih => exact fewest_cons_mono ih
  cases h with
  | insert before after x => exact behind (fewest_le_cons x after) before c
  | delete before after x => exact behind (fewest_cons_le x after) before c
  | replace before after x y => exact behind (fewest_replace_le x y after) before c

lemma fewest_le_of_turns (h : Turns n a b) : fewest a b ≤ n := by
  induction h with
  | done a => exact Nat.le_of_eq (fewest_self a)
  | @edit n a b c first _ ih =>
    have := fewest_le_of_edit first c
    omega

/-! ### The table -/

/-- The cells of the row of `a` over the second text, of which `read` has been passed already. Both
are written from their ends. -/
def cells (a read : List Char) : List Char → List Nat
  | [] => [fewest a read]
  | y :: b => fewest a read :: cells a (y :: read) b

lemma cells_eq_cons (a read b : List Char) :
    cells a read b = fewest a read :: (cells a read b).tail := by
  cases b <;> rfl

lemma cells_nil (read b : List Char) :
    cells [] read b = List.range' read.length (b.length + 1) := by
  induction b generalizing read with
  | nil => simp [cells]
  | cons y b ih =>
    rw [cells, ih, fewest_nil, List.length_cons, List.length_cons,
      List.range'_succ (n := b.length + 1)]

lemma rowAfter_cells (x : Char) (a read b : List Char) :
    rowAfter x (fewest (x :: a) read) b (cells a read b) = (cells (x :: a) read b).tail := by
  induction b generalizing read with
  | nil => rfl
  | cons y b ih =>
    rw [cells, cells_eq_cons a (y :: read) b, rowAfter, ← cells_eq_cons, ← fewest_cons, ih,
      ← cells_eq_cons]
    rfl

lemma nextRow_cells (x : Char) (a b : List Char) :
    nextRow b (cells a [] b) x = cells (x :: a) [] b := by
  have first : fewest a [] + 1 = fewest (x :: a) [] := by simp
  rw [cells_eq_cons a, nextRow, ← cells_eq_cons, first, rowAfter_cells, ← cells_eq_cons]

lemma foldl_nextRow (a done b : List Char) :
    a.foldl (nextRow b) (cells done [] b) = cells (a.reverse ++ done) [] b := by
  induction a generalizing done with
  | nil => rfl
  | cons x a ih =>
    rw [List.foldl_cons, nextRow_cells, ih, List.reverse_cons, List.append_assoc,
      List.singleton_append]

lemma getLast?_cells (a read b : List Char) :
    (cells a read b).getLast? = some (fewest a (b.reverse ++ read)) := by
  induction b generalizing read with
  | nil => rfl
  | cons y b ih =>
    rw [cells, cells_eq_cons a (y :: read), List.getLast?_cons_cons, ← cells_eq_cons, ih,
      List.reverse_cons, List.append_assoc, List.singleton_append]

lemma editDistance_eq (a b : List Char) : editDistance a b = fewest a.reverse b.reverse := by
  have first : firstRow b = cells [] [] b := by
    rw [firstRow, cells_nil, List.range_eq_range', List.length_nil]
  rw [editDistance, first, foldl_nextRow, getLast?_cells, List.append_nil, List.append_nil,
    Option.getD_some]

lemma turns_editDistance (a b : List Char) : Turns (editDistance a b) a b := by
  have := (turns_fewest a.reverse b.reverse).reverse
  rwa [List.reverse_reverse, List.reverse_reverse, ← editDistance_eq] at this

lemma editDistance_le_of_turns (h : Turns n a b) : editDistance a b ≤ n := by
  rw [editDistance_eq]
  exact fewest_le_of_turns h.reverse

end GitTutor.Text

namespace GitTutor.Suggestion

open Text

/-- **The distance between two texts is the least number of edits that turn the one into the
other.** -/
theorem distance_least (a b : String) : IsLeast {n | Turns n a.toList b.toList} (distance a b) := by
  constructor
  · exact turns_editDistance a.toList b.toList
  · intro n turns
    exact editDistance_le_of_turns turns

end GitTutor.Suggestion
