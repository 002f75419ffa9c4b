import GitTutor.Text.Blank

/-!
Tokens of a command line.

Tokens are separated by blanks. A quote opens only at the start of a token and runs to the next
quote of its kind, or to the end of the line; what stands in it, blanks too, belongs to the token.
A quote inside a token is an ordinary character.
-/

namespace GitTutor.Token

open GitTutor.Text

def isQuote (c : Char) : Bool := c = '"' || c = '\''

/-- Where a scan stands: between tokens, in a token, or inside its quotes. -/
inductive Mode where
  | between
  | word (sofar : List Char)
  | quoted (quote : Char) (sofar : List Char)

/-- The tokens of a line, of which the one at hand may have begun before. -/
def scan : Mode → List Char → List (List Char)
  | .between, [] => []
  | .word w, [] => [w]
  | .quoted _ w, [] => [w]
  | .between, c :: r =>
    if isQuote c then scan (.quoted c []) r
    else if isBlank c then scan .between r
    else scan (.word [c]) r
  | .word w, c :: r => if isBlank c then w :: scan .between r else scan (.word (w ++ [c])) r
  | .quoted q w, c :: r => if c = q then scan (.word w) r else scan (.quoted q (w ++ [c])) r

/-- The tokens of a line. -/
def ofLine (line : String) : List String := (scan .between line.toList).map String.ofList

end GitTutor.Token
