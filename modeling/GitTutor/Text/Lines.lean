/-!
Lines of a text.

`pieces` cuts a text after every newline and loses nothing (`flatten_pieces`). `lines` drops
the line ends: a newline, and one carriage return before it.
-/

namespace GitTutor.Text

/-- The lines of a text, each with its newline; the last one may lack it. -/
def pieces : List Char → List (List Char)
  | [] => []
  | c :: r =>
    if c = '\n' then [c] :: pieces r
    else
      match pieces r with
      | [] => [[c]]
      | p :: ps => (c :: p) :: ps

theorem flatten_pieces (s : List Char) : (pieces s).flatten = s := by
  induction s with
  | nil => rfl
  | cons c r ih =>
    by_cases h : c = '\n'
    · simp [pieces, h, ih]
    · cases hp : pieces r with
      | nil => simp_all [pieces]
      | cons p ps => simp_all [pieces]

theorem ne_nil_of_mem_pieces {s p : List Char} (h : p ∈ pieces s) : p ≠ [] := by
  induction s generalizing p with
  | nil => simp [pieces] at h
  | cons c r ih =>
    by_cases hc : c = '\n'
    · simp only [pieces, hc, if_true, List.mem_cons] at h
      rcases h with rfl | h
      · simp
      · exact ih h
    · cases hp : pieces r with
      | nil => simp_all [pieces]
      | cons q qs =>
        simp only [pieces, hc, if_false, hp, List.mem_cons] at h
        rcases h with rfl | h
        · simp
        · exact ih (by simp [hp, h])

/-- Drops `c` from the end of `s`, if it stands there. -/
def dropLast? (c : Char) (s : List Char) : Option (List Char) :=
  if s.getLast? = some c then some s.dropLast else none

/-- A line without its end. A carriage return goes only together with the newline. -/
def bareLine (piece : List Char) : List Char :=
  match dropLast? '\n' piece with
  | none => piece
  | some line => (dropLast? '\r' line).getD line

/-- The lines of a text without their ends. -/
def lines (s : List Char) : List (List Char) := (pieces s).map bareLine

end GitTutor.Text
