import GitTutor.Text.EditDistance

/-!
The command that was probably meant.

A command of `k` words is compared with the first `j ≤ k` tokens of a line, joined by single
blanks, so that glued words still find it. Of the commands at the least distance the first counts.
-/

namespace GitTutor.Suggestion

open GitTutor.Text

/-- Every complete command, the likelier ones first. -/
def vocabulary : List String := [
  "help", "ls", "cat", "touch", "pwd",
  "git init", "git status", "git add", "git commit", "git log", "git branch", "git checkout",
  "git merge", "git conflicts", "git push", "git pull", "git clone",
  "git remote", "git remote add", "git remote remove",
  "git pages publish", "git pages republish",
  "github create", "github status", "github pr create", "github pr list", "github pr merge"]

/-- The largest distance that is worth a suggestion. -/
def reach : Nat := 3

def wordCount (entry : String) : Nat := (entry.toList.splitOn ' ').length

/-- Whether an entry goes on after the words of `scope`; an empty scope admits every entry. -/
def InScope (scope entry : String) : Prop := scope = "" ∨ scope.toList ++ [' '] <+: entry.toList

instance (scope entry : String) : Decidable (InScope scope entry) :=
  inferInstanceAs (Decidable (_ ∨ _))

/-- The distance between two texts. -/
def distance (a b : String) : Nat := editDistance a.toList b.toList

/-- The distances of an entry from the starts of a row of tokens. -/
def distances (tokens : List String) (entry : String) : List Nat :=
  (List.range (min (wordCount entry) tokens.length)).map fun j =>
    distance (" ".intercalate (tokens.take (j + 1))) entry

/-- The first pair with the least number. -/
def firstLeast : List (Nat × String) → Option (Nat × String)
  | [] => none
  | e :: es =>
    match firstLeast es with
    | none => some e
    | some least => if e.1 ≤ least.1 then some e else some least

/-- The entry closest to a row of tokens, if it is within reach. -/
def closest? (tokens : List String) (scope : String) : Option String :=
  let rated := (vocabulary.filter (InScope scope ·)).filterMap fun entry =>
    (distances tokens entry).min?.map (·, entry)
  (firstLeast rated).bind fun e => if e.1 ≤ reach then some e.2 else none

end GitTutor.Suggestion
