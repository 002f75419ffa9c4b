/-!
Blank characters, trimming, and words.

A character is blank when it has the Unicode property `White_Space`; there are 25 of them.
Words are the maximal runs of other characters.
-/

namespace GitTutor.Text

/-- The characters of the property `White_Space`. -/
def isBlank (c : Char) : Bool :=
  let n := c.toNat
  (9 ≤ n && n ≤ 13) || n == 0x20 || n == 0x85 || n == 0xa0 || n == 0x1680 ||
    (0x2000 ≤ n && n ≤ 0x200a) || n == 0x2028 || n == 0x2029 || n == 0x202f || n == 0x205f ||
    n == 0x3000

def trimStart (s : List Char) : List Char := s.dropWhile isBlank

def trimEnd (s : List Char) : List Char := s.reverse.dropWhile isBlank |>.reverse

/-- Drops blanks from both ends. -/
def trim (s : List Char) : List Char := trimEnd (trimStart s)

/-- A text that holds nothing but blanks. -/
def AllBlank (s : List Char) : Prop := ∀ c ∈ s, isBlank c = true

instance (s : List Char) : Decidable (AllBlank s) :=
  List.decidableBAll (isBlank · = true) s

theorem trimStart_eq_nil_iff {s : List Char} : trimStart s = [] ↔ AllBlank s := by
  induction s with
  | nil => simp [trimStart, AllBlank]
  | cons c r ih =>
    by_cases h : isBlank c = true
    · rw [trimStart, List.dropWhile_cons_of_pos h, ← trimStart, ih]
      simp [AllBlank, h]
    · simp [trimStart, AllBlank, h]

/-- The rest of a text after its first blank, and what stands before that blank. -/
def cutAtBlank : List Char → Option (List Char × List Char)
  | [] => none
  | c :: r => if isBlank c then some ([], r) else (cutAtBlank r).map fun p => (c :: p.1, p.2)

/-- The words of a text, without the blanks between them. -/
def words (s : List Char) : List (List Char) := (s.splitOnP isBlank).filter (· ≠ [])

end GitTutor.Text
