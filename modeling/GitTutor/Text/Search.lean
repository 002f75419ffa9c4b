/-!
The first place where one text stands inside another.

`cut needle s` gives what stands before and after that place; it puts the text back together
(`eq_of_cut`), and it fails only when there is no such place (`cut_eq_none_iff`).
-/

namespace GitTutor.Text

def cut (needle : List Char) : List Char → Option (List Char × List Char)
  | [] => if needle.isEmpty then some ([], []) else none
  | c :: r =>
    if needle.isPrefixOf (c :: r) then some ([], (c :: r).drop needle.length)
    else (cut needle r).map fun p => (c :: p.1, p.2)

/-- The same for a needle in lower case, where the case of ASCII letters does not count. -/
def cutAnyCase (needle : List Char) : List Char → Option (List Char × List Char)
  | [] => if needle.isEmpty then some ([], []) else none
  | c :: r =>
    if ((c :: r).take needle.length).map Char.toLower = needle then
      some ([], (c :: r).drop needle.length)
    else (cutAnyCase needle r).map fun p => (c :: p.1, p.2)

/-- Whether `needle` stands somewhere in `s`. -/
def contains (needle s : List Char) : Bool := (cut needle s).isSome

theorem eq_of_cut {needle s a b : List Char} (h : cut needle s = some (a, b)) :
    s = a ++ needle ++ b := by
  induction s generalizing a b with
  | nil =>
    cases needle <;> simp_all [cut]
  | cons c r ih =>
    by_cases hp : needle.isPrefixOf (c :: r) = true
    · simp only [cut, hp, if_true, Option.some.injEq, Prod.mk.injEq] at h
      obtain ⟨rfl, rfl⟩ := h
      obtain ⟨t, ht⟩ := List.isPrefixOf_iff_prefix.1 hp
      simp [← ht]
    · simp only [cut, hp, if_false, Option.map_eq_some_iff, Prod.exists, Prod.mk.injEq,
        Bool.false_eq_true] at h
      obtain ⟨x, y, hxy, rfl, rfl⟩ := h
      simp [ih hxy]

theorem cut_eq_none_iff {needle s : List Char} :
    cut needle s = none ↔ ∀ a b, s ≠ a ++ needle ++ b := by
  constructor
  · intro h a b hs
    induction s generalizing a with
    | nil =>
      obtain ⟨rfl, rfl, rfl⟩ : a = [] ∧ needle = [] ∧ b = [] := by simpa using hs.symm
      simp [cut] at h
    | cons c r ih =>
      by_cases hp : needle.isPrefixOf (c :: r) = true
      · simp [cut, hp] at h
      · simp only [cut, hp, Bool.false_eq_true, if_false, Option.map_eq_none_iff] at h
        cases a with
        | nil => exact hp (List.isPrefixOf_iff_prefix.2 ⟨b, by simpa using hs.symm⟩)
        | cons d a =>
          simp only [List.cons_append, List.cons.injEq] at hs
          exact ih h a hs.2
  · intro h
    cases hc : cut needle s with
    | none => rfl
    | some p => exact absurd (eq_of_cut (a := p.1) (b := p.2) hc) (h p.1 p.2)

theorem contains_iff {needle s : List Char} : contains needle s = true ↔ needle <:+: s := by
  rw [contains, ← Option.not_isNone, Bool.not_eq_true', ← Bool.not_eq_true,
    Option.isNone_iff_eq_none, cut_eq_none_iff]
  simp [List.IsInfix, eq_comm]

end GitTutor.Text
