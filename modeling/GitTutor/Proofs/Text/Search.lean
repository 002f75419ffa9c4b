import GitTutor.Text.Search
import Mathlib.Tactic.Common

/-!
The first place where one text stands in another.

The search that heeds the case of letters and the one that does not are the same search, with
another notion of when two characters are the same (`cutBy`). It gives the first place of all, and
fails only when there is none (`cutBy_spec`). A character that a text lacks keeps it from standing
across that character.
-/

namespace GitTutor.Text

variable {key : Char → Char} {c : Char} {needle s a b : List Char}

/-! ### Places in a text -/

/-- A place where `needle` stands in `s`, where `key` tells which characters are the same. -/
structure Occurs (key : Char → Char) (needle s before found after : List Char) : Prop where
  whole : s = before ++ found ++ after
  same : found.map key = needle

/-- No other place has less before it. -/
structure OccursFirst (key : Char → Char) (needle s before found after : List Char) : Prop
    extends Occurs key needle s before found after where
  first : ∀ {before' found' after' : List Char}, Occurs key needle s before' found' after' →
    before.length ≤ before'.length

variable {before found after before' found' after' : List Char}

lemma Occurs.length_found (h : Occurs key needle s before found after) :
    found.length = needle.length := by
  rw [← h.same, List.length_map]

lemma Occurs.cons (h : Occurs key needle s before found after) (c : Char) :
    Occurs key needle (c :: s) (c :: before) found after :=
  ⟨by rw [h.whole]; rfl, h.same⟩

lemma OccursFirst.suffix (h : OccursFirst key needle s before found after)
    (other : Occurs key needle s before' found' after') : after' <:+ after := by
  have lengths : (before ++ found ++ after).length = (before' ++ found' ++ after').length := by
    rw [← h.whole, ← other.whole]
  have earlier := h.first other
  simp only [List.length_append, h.length_found, other.length_found] at lengths
  refine List.suffix_of_suffix_length_le (other.whole ▸ List.suffix_append _ _)
    (h.whole ▸ List.suffix_append _ _) ?_
  omega

lemma occurs_at_start_iff : (s.take needle.length).map key = needle ↔
    ∃ found after, Occurs key needle s [] found after := by
  constructor
  · intro same
    exact ⟨_, s.drop needle.length, (List.take_append_drop _ s).symm, same⟩
  · rintro ⟨found, after, h⟩
    rw [h.whole, List.nil_append, List.take_left' h.length_found, h.same]

/-! ### The search -/

/-- The search for a text, where `key` tells which characters are the same. -/
def cutBy (key : Char → Char) (needle : List Char) : List Char → Option (List Char × List Char)
  | [] => if needle.isEmpty then some ([], []) else none
  | c :: r =>
    if ((c :: r).take needle.length).map key = needle then some ([], (c :: r).drop needle.length)
    else (cutBy key needle r).map fun p => (c :: p.1, p.2)

lemma cutAnyCase_eq_cutBy (needle s : List Char) :
    cutAnyCase needle s = cutBy Char.toLower needle s := by
  induction s with
  | nil => rfl
  | cons c r ih => rw [cutAnyCase, cutBy, ih]

lemma cut_eq_cutBy (needle s : List Char) : cut needle s = cutBy id needle s := by
  induction s with
  | nil => rfl
  | cons c r ih =>
    have starts : needle.isPrefixOf (c :: r) = true ↔
        ((c :: r).take needle.length).map id = needle := by
      rw [List.isPrefixOf_iff_prefix, List.prefix_iff_eq_take, List.map_id, eq_comm]
    rw [cut, cutBy, ih]
    simp only [starts]

/-- **A search gives the first place, and fails only when there is none.** -/
lemma cutBy_spec (key : Char → Char) (needle s : List Char) :
    match cutBy key needle s with
    | some (before, after) => ∃ found, OccursFirst key needle s before found after
    | none => ∀ before found after, ¬Occurs key needle s before found after := by
  induction s with
  | nil =>
    rw [cutBy]
    split_ifs with empty
    · exact ⟨[], ⟨rfl, (List.isEmpty_iff.1 empty).symm⟩, fun _ => Nat.zero_le _⟩
    · intro before found after h
      have nothing : before ++ found = [] := (List.append_eq_nil_iff.1 h.whole.symm).1
      obtain ⟨-, rfl⟩ := List.append_eq_nil_iff.1 nothing
      exact empty (by rw [← h.same]; rfl)
  | cons c r ih =>
    rw [cutBy]
    split_ifs with starts
    · obtain ⟨found, after, h⟩ := occurs_at_start_iff.1 starts
      have drop : (c :: r).drop needle.length = after := by
        rw [h.whole, List.nil_append, List.drop_left' h.length_found]
      exact ⟨found, drop ▸ h, fun _ => Nat.zero_le _⟩
    · -- Every place is one of the rest.
      have later : ∀ {before found after}, Occurs key needle (c :: r) before found after →
          ∃ before', before = c :: before' ∧ Occurs key needle r before' found after := by
        intro before found after h
        cases before with
        | nil => exact absurd (occurs_at_start_iff.2 ⟨found, after, h⟩) starts
        | cons d before =>
          obtain ⟨rfl, rest⟩ := List.cons.inj h.whole
          exact ⟨before, rfl, rest, h.same⟩
      cases heq : cutBy key needle r with
      | none =>
        rw [heq] at ih
        intro before found after h
        obtain ⟨before', -, rest⟩ := later h
        exact ih before' found after rest
      | some p =>
        obtain ⟨before, after⟩ := p
        rw [heq] at ih
        obtain ⟨found, h⟩ := ih
        refine ⟨found, h.toOccurs.cons c, fun other => ?_⟩
        obtain ⟨before', rfl, rest⟩ := later other
        exact Nat.succ_le_succ (h.first rest)

lemma occursFirst_of_cutBy (h : cutBy key needle s = some (a, b)) :
    ∃ found, OccursFirst key needle s a found b := by
  have spec := cutBy_spec key needle s
  rwa [h] at spec

lemma not_occurs_of_cutBy (h : cutBy key needle s = none) (before found after : List Char) :
    ¬Occurs key needle s before found after := by
  have spec := cutBy_spec key needle s
  rw [h] at spec
  exact spec before found after

/-! ### Characters that a text lacks -/

lemma cut_unique {a' b' : List Char} (ha : c ∉ a) (ha' : c ∉ a')
    (same : a ++ c :: b = a' ++ c :: b') : a = a' ∧ b = b' := by
  rcases List.append_eq_append_iff.1 same with ⟨m, rfl, h⟩ | ⟨m, rfl, h⟩
  · cases m with
    | nil => exact ⟨by simp, (List.cons.inj h).2⟩
    | cons d m => exact absurd (by simp [(List.cons.inj h).1]) ha'
  · cases m with
    | nil => exact ⟨by simp, (List.cons.inj h).2.symm⟩
    | cons d m => exact absurd (by simp [(List.cons.inj h).1]) ha

lemma cut_unique_last {a' b' : List Char} (hb : c ∉ b) (hb' : c ∉ b')
    (same : a ++ c :: b = a' ++ c :: b') : a = a' ∧ b = b' := by
  have reversed : b.reverse ++ c :: a.reverse = b'.reverse ++ c :: a'.reverse := by
    simpa using congrArg List.reverse same
  obtain ⟨after, before⟩ := cut_unique (by simpa using hb) (by simpa using hb') reversed
  exact ⟨List.reverse_inj.1 before, List.reverse_inj.1 after⟩

lemma prefix_append_cons_iff (lacks : c ∉ needle) : needle <+: a ++ c :: b ↔ needle <+: a := by
  constructor
  · intro h
    have upTo : a ++ [c] <+: a ++ c :: b := by
      rw [List.prefix_append_right_inj]
      exact ⟨b, rfl⟩
    have short : needle <+: a ++ [c] := by
      rcases List.prefix_or_prefix_of_prefix h upTo with short | long
      · exact short
      · exact absurd (long.subset (by simp)) lacks
    refine (List.prefix_concat_iff.1 short).resolve_left ?_
    rintro rfl
    exact lacks (by simp)
  · exact fun h => h.trans (List.prefix_append _ _)

lemma infix_append_cons_iff (lacks : c ∉ needle) :
    needle <:+: a ++ c :: b ↔ needle <:+: a ∨ needle <:+: b := by
  induction a with
  | nil =>
    have start : needle <+: c :: b ↔ needle <+: [] := prefix_append_cons_iff (a := []) lacks
    rw [List.nil_append, List.infix_cons_iff, start, List.prefix_nil, List.infix_nil]
  | cons d a ih =>
    have start : needle <+: d :: (a ++ c :: b) ↔ needle <+: d :: a :=
      prefix_append_cons_iff (a := d :: a) lacks
    rw [List.cons_append, List.infix_cons_iff, start, ih, List.infix_cons_iff, or_assoc]

lemma infix_intercalate_iff {texts : List (List Char)} (lacks : c ∉ needle)
    (nonempty : needle ≠ []) :
    needle <:+: [c].intercalate texts ↔ ∃ text ∈ texts, needle <:+: text := by
  induction texts with
  | nil => simpa using nonempty
  | cons text texts ih =>
    cases texts with
    | nil => simp
    | cons next texts =>
      rw [List.intercalate_cons_cons, List.append_assoc, List.singleton_append,
        infix_append_cons_iff lacks, ih]
      simp only [List.mem_cons, exists_eq_or_imp]

lemma cut_self_append (nonempty : needle ≠ []) (b : List Char) :
    cut needle (needle ++ b) = some ([], b) := by
  obtain ⟨d, rest, rfl⟩ := List.exists_cons_of_ne_nil nonempty
  have starts : (d :: rest).isPrefixOf (d :: (rest ++ b)) = true :=
    List.isPrefixOf_iff_prefix.2 (List.prefix_append (d :: rest) b)
  rw [List.cons_append, cut, if_pos starts, ← List.cons_append, List.drop_left]

/-- The first place of a text is the one behind `a`, if it does not stand in `a` and cannot begin
there. -/
lemma cut_append_cons (lacks : c ∉ needle) (nonempty : needle ≠ []) (absent : ¬needle <:+: a)
    (b : List Char) : cut needle (a ++ c :: (needle ++ b)) = some (a ++ [c], b) := by
  induction a with
  | nil =>
    have later : ¬needle.isPrefixOf (c :: (needle ++ b)) = true := by
      have start := prefix_append_cons_iff (a := []) (b := needle ++ b) lacks
      rw [List.isPrefixOf_iff_prefix, ← List.nil_append (c :: _), start, List.prefix_nil]
      exact nonempty
    rw [List.nil_append, cut, if_neg later, cut_self_append nonempty]
    rfl
  | cons d a ih =>
    have elsewhere : ¬needle.isPrefixOf (d :: (a ++ c :: (needle ++ b))) = true := by
      rw [List.isPrefixOf_iff_prefix, ← List.cons_append, prefix_append_cons_iff lacks]
      exact fun h => absent h.isInfix
    have absent' : ¬needle <:+: a := fun h => absent (h.trans (List.suffix_cons d a).isInfix)
    rw [List.cons_append, cut, if_neg elsewhere, ih absent']
    rfl

end GitTutor.Text
