import GitTutor.Data.Value
import GitTutor.Text.Hex

/-!
JSON texts of values.

A text escapes the quote, the backslash and the control characters below the blank, the common
ones by a letter and the others by four digits. `compact` writes no blanks. `pretty` gives each
item its own line, indented by two blanks a level, and leaves empty lists and objects closed.
-/

namespace GitTutor.Json

open GitTutor Text

def quote : Char := '"'
def backslash : Char := '\\'
def openBrace : Char := '\x7b'
def closeBrace : Char := '\x7d'

def escape (c : Char) : List Char :=
  if c = quote then [backslash, quote]
  else if c = backslash then [backslash, backslash]
  else if c = '\n' then [backslash, 'n']
  else if c = '\r' then [backslash, 'r']
  else if c = '\t' then [backslash, 't']
  else if c = '\x08' then [backslash, 'b']
  else if c = '\x0c' then [backslash, 'f']
  else if c.toNat < 0x20 then
    [backslash, 'u', '0', '0', hexDigit (c.toNat / 16), hexDigit (c.toNat % 16)]
  else [c]

def quoted (s : List Char) : List Char := quote :: s.flatMap escape ++ [quote]

def integer : Int → List Char
  | .ofNat n => Nat.toDigits 10 n
  | .negSucc n => '-' :: Nat.toDigits 10 (n + 1)

mutual

def compact : Value → List Char
  | .null => "null".toList
  | .bool b => (if b then "true" else "false").toList
  | .int n => integer n
  | .scalar literal => literal.toList
  | .text s => quoted s.toList
  | .list items => '[' :: compactItems items
  | .object members => openBrace :: compactMembers members

/-- The items of a list and its closing bracket. -/
def compactItems : List Value → List Char
  | [] => [']']
  | [v] => compact v ++ [']']
  | v :: w :: vs => compact v ++ ',' :: compactItems (w :: vs)

/-- The members of an object and its closing brace. -/
def compactMembers : List (String × Value) → List Char
  | [] => [closeBrace]
  | [(name, v)] => quoted name.toList ++ ':' :: compact v ++ [closeBrace]
  | (name, v) :: m :: ms =>
    quoted name.toList ++ ':' :: compact v ++ ',' :: compactMembers (m :: ms)

end

def newline (level : Nat) : List Char := '\n' :: List.replicate (2 * level) ' '

mutual

/-- The text of a value whose first line stands at `level`. -/
def pretty (level : Nat) : Value → List Char
  | .list [] => "[]".toList
  | .object [] => [openBrace, closeBrace]
  | .list (v :: vs) => '[' :: prettyItems (level + 1) (v :: vs) ++ newline level ++ [']']
  | .object (m :: ms) =>
    openBrace :: prettyMembers (level + 1) (m :: ms) ++ newline level ++ [closeBrace]
  | .null => compact .null
  | .bool b => compact (.bool b)
  | .int n => compact (.int n)
  | .scalar literal => compact (.scalar literal)
  | .text s => compact (.text s)

def prettyItems (level : Nat) : List Value → List Char
  | [] => []
  | [v] => newline level ++ pretty level v
  | v :: w :: vs => newline level ++ pretty level v ++ ',' :: prettyItems level (w :: vs)

def prettyMembers (level : Nat) : List (String × Value) → List Char
  | [] => []
  | [(name, v)] => newline level ++ quoted name.toList ++ ": ".toList ++ pretty level v
  | (name, v) :: m :: ms =>
    newline level ++ quoted name.toList ++ ": ".toList ++ pretty level v ++
      ',' :: prettyMembers level (m :: ms)

end

/-- A value as one line. -/
def toLine (v : Value) : String := String.ofList (compact v)

/-- A value on several lines. -/
def toLines (v : Value) : String := String.ofList (pretty 0 v)

end GitTutor.Json
