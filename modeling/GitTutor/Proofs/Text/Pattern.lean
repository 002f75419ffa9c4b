import GitTutor.Text.Search
import Mathlib.Tactic.Common

/-!
The first match of a pattern in a text.

A pattern is tried at one place of a text after the other. Where it matches in several ways, its
repetitions decide which one counts: each prefers to take as much as it can, or as little, and the
earlier ones go first. What a pattern finds can often be found by searches for words
(`ways_most_one`, `head?_least_letters`).
-/

namespace GitTutor.Text

/-- A part of a pattern: one character of a kind, or a repetition, which prefers to take as many of
them as it can or as few. -/
inductive Part where
  | one (kind : Char → Bool)
  | most (kind : Char → Bool)
  | least (kind : Char → Bool)

/-- The ways to take characters of a kind from the start of a text, the shortest first. Each is
given by what is taken and what is left. -/
def runs (kind : Char → Bool) : List Char → List (List Char × List Char)
  | [] => [([], [])]
  | c :: r => ([], c :: r) :: if kind c then (runs kind r).map fun w => (c :: w.1, w.2) else []

/-- The ways in which a part matches the start of a text, the preferred first. -/
def Part.ways : Part → List Char → List (List Char × List Char)
  | one _, [] => []
  | one kind, c :: r => if kind c then [([c], r)] else []
  | most kind, s => (runs kind s).reverse
  | least kind, s => runs kind s

/-- The same for parts that follow each other. -/
def ways : List Part → List Char → List (List Char × List Char)
  | [], s => [([], s)]
  | part :: parts, s =>
    (part.ways s).flatMap fun w => (ways parts w.2).map fun v => (w.1 ++ v.1, v.2)

/-- A pattern, of which some parts make up a group. -/
structure Pattern where
  opening : List Part
  group : List Part
  closing : List Part

namespace Pattern

/-- What the group takes in the matches that begin with the text, the preferred first. -/
def groups (p : Pattern) (s : List Char) : List (List Char) :=
  (ways p.opening s).flatMap fun o =>
    (ways p.group o.2).flatMap fun g => (ways p.closing g.2).map fun _ => g.1

/-- What the group takes in the preferred match at the first place that has one. -/
def captured? (p : Pattern) : List Char → Option (List Char)
  | [] => (p.groups []).head?
  | c :: r => (p.groups (c :: r)).head?.or (p.captured? r)

end Pattern

/-! ### Words and repetitions -/

/-- A word in lower case, where the case of letters does not count. -/
def letters (word : List Char) : List Part :=
  word.map fun d => .one fun c => c.toLower = d

lemma ways_append (ps qs : List Part) (s : List Char) :
    ways (ps ++ qs) s =
      (ways ps s).flatMap fun w => (ways qs w.2).map fun v => (w.1 ++ v.1, v.2) := by
  induction ps generalizing s with
  | nil => simp [ways]
  | cons part ps ih =>
    simp only [List.cons_append, ways, ih, List.map_flatMap, List.flatMap_assoc, List.flatMap_map,
      List.map_map, Function.comp_def, List.append_assoc]

lemma ways_letters (word s : List Char) :
    ways (letters word) s =
      if (s.take word.length).map Char.toLower = word then
        [(s.take word.length, s.drop word.length)]
      else [] := by
  induction word generalizing s with
  | nil => rfl
  | cons d word ih =>
    cases s with
    | nil => rfl
    | cons c r =>
      have unfolded : ways (letters (d :: word)) (c :: r) =
          (if c.toLower = d then [([c], r)] else []).flatMap fun w =>
            (ways (letters word) w.2).map fun v => (w.1 ++ v.1, v.2) := by
        simp [letters, ways, Part.ways]
      rw [unfolded]
      by_cases same : c.toLower = d
      · rw [if_pos same, List.flatMap_singleton, ih, apply_ite (List.map _)]
        simp [same]
      · simp [same]

lemma ways_singleton (part : Part) (s : List Char) : ways [part] s = part.ways s := by
  simp [ways]

lemma ways_most_one (mark : Char) (s : List Char) :
    ways [.most (· ≠ mark), .one (· = mark)] s =
      ((cut [mark] s).map fun p => (p.1 ++ [mark], p.2)).toList := by
  have unfolded : ∀ s, ways [.most (· ≠ mark), .one (· = mark)] s =
      (runs (· ≠ mark) s).reverse.flatMap fun w =>
        ((Part.one (· = mark)).ways w.2).map fun v => (w.1 ++ v.1, v.2) := by
    intro s
    simp [ways, Part.ways]
  rw [unfolded]
  induction s with
  | nil => rfl
  | cons c r ih =>
    by_cases here : c = mark
    · subst here
      simp [runs, Part.ways, cut]
    · have later : ¬[mark].isPrefixOf (c :: r) = true := by simpa using Ne.symm here
      have longer : ((runs (· ≠ mark) r).map fun w => (c :: w.1, w.2)).reverse.flatMap
            (fun w => ((Part.one (· = mark)).ways w.2).map fun v => (w.1 ++ v.1, v.2)) =
          ((runs (· ≠ mark) r).reverse.flatMap fun w =>
            ((Part.one (· = mark)).ways w.2).map fun v => (w.1 ++ v.1, v.2)).map
              fun w => (c :: w.1, w.2) := by
        simp [← List.map_reverse, List.flatMap_map, List.map_flatMap, Function.comp_def]
      rw [cut, if_neg later, runs, if_pos (by simpa using here), List.reverse_cons,
        List.flatMap_append, longer, ih]
      cases cut [mark] r <;> simp [Part.ways, here]

lemma head?_least_letters (word s : List Char) :
    ((ways [.least fun _ => true] s).flatMap fun g =>
        (ways (letters word) g.2).map fun _ => g.1).head? = (cutAnyCase word s).map (·.1) := by
  rw [ways_singleton]
  induction s with
  | nil =>
    cases word <;> simp [Part.ways, runs, ways_letters, cutAnyCase]
  | cons c r ih =>
    have longer : (((runs (fun _ => true) r).map fun w => (c :: w.1, w.2)).flatMap fun g =>
          (ways (letters word) g.2).map fun _ => g.1) =
        (((Part.least fun _ => true).ways r).flatMap fun g =>
          (ways (letters word) g.2).map fun _ => g.1).map (c :: ·) := by
      simp only [Part.ways, List.flatMap_map, List.map_flatMap, List.map_map, Function.comp_def]
    have unfolded : (Part.least fun _ => true).ways (c :: r) =
        ([], c :: r) :: (runs (fun _ => true) r).map fun w => (c :: w.1, w.2) := rfl
    rw [unfolded, List.flatMap_cons, longer, List.head?_append, ways_letters, cutAnyCase]
    simp only [List.head?_map, ih]
    split_ifs
    · rfl
    · cases cutAnyCase word r <;> rfl

end GitTutor.Text
