import GitTutor.Text.Hex

/-!
The smallest parts of a TOML text: blanks, comments, line ends, strings and keys.

Every reader takes a start of the text and gives the rest. Line ends are single newlines here;
`unifyBreaks` brings a text into that form.
-/

namespace GitTutor.Toml

open GitTutor Text

/-! ### Blanks and comments -/

/-- Whether a character may stand in a string or a comment as it is. -/
def isPlain (c : Char) : Bool := (0x20 ≤ c.toNat && c.toNat ≠ 0x7f) || c = '\t'

def isBlank (c : Char) : Bool := c = ' ' || c = '\t'

def skipBlanks (s : List Char) : List Char := s.dropWhile isBlank

/-- The text with a newline for every pair of a carriage return and a newline. -/
def unifyBreaks : List Char → List Char
  | [] => []
  | '\r' :: '\n' :: rest => '\n' :: unifyBreaks rest
  | c :: rest => c :: unifyBreaks rest

def skipComment (s : List Char) : List Char :=
  match s with
  | '#' :: rest => rest.dropWhile isPlain
  | _ => s

/-- What follows the end of a line, where nothing but blanks and a comment may stand before it. -/
def afterLine? (s : List Char) : Option (List Char) :=
  match skipComment (skipBlanks s) with
  | [] => some []
  | '\n' :: rest => some rest
  | _ => none

/-- Skips blanks, comments and line ends; `n` bounds the lines. -/
def skipLines : (n : Nat) → List Char → List Char
  | 0, s => skipBlanks s
  | n + 1, s =>
    match afterLine? s with
    | some (c :: rest) => skipLines n (c :: rest)
    | some [] => []
    | none => skipBlanks s

/-! ### Strings -/

/-- The character of a code point that is no surrogate. -/
def character? (digits : List Char) : Option Char :=
  (number? 16 digits).bind fun n => if h : n.isValidChar then some (Char.ofNatAux n h) else none

def escaped? (c : Char) : Option Char :=
  if c = '"' ∨ c = '\\' then some c
  else if c = 'n' then some '\n'
  else if c = 'r' then some '\r'
  else if c = 't' then some '\t'
  else if c = 'b' then some '\x08'
  else if c = 'f' then some '\x0c'
  else none

/-- The characters up to the closing double quote, and the rest after it. -/
def basicString? : List Char → Option (List Char × List Char)
  | [] => none
  | '"' :: rest => some ([], rest)
  | '\\' :: 'u' :: a :: b :: c :: d :: rest =>
    (character? [a, b, c, d]).bind fun x => (basicString? rest).map fun p => (x :: p.1, p.2)
  | '\\' :: 'U' :: a :: b :: c :: d :: e :: f :: g :: h :: rest =>
    (character? [a, b, c, d, e, f, g, h]).bind fun x =>
      (basicString? rest).map fun p => (x :: p.1, p.2)
  | '\\' :: c :: rest =>
    (escaped? c).bind fun x => (basicString? rest).map fun p => (x :: p.1, p.2)
  | c :: rest => if isPlain c then (basicString? rest).map fun p => (c :: p.1, p.2) else none

/-- The characters up to the closing single quote, and the rest after it. -/
def literalString? : List Char → Option (List Char × List Char)
  | [] => none
  | '\'' :: rest => some ([], rest)
  | c :: rest => if isPlain c then (literalString? rest).map fun p => (c :: p.1, p.2) else none

/-- What follows three closing quotes. Up to two more of them belong to the string. -/
def afterQuotes (quote : Char) : List Char → List Char × List Char
  | c :: d :: rest =>
    if c = quote then if d = quote then ([c, d], rest) else ([c], d :: rest)
    else ([], c :: d :: rest)
  | [c] => if c = quote then ([c], []) else ([], [c])
  | [] => ([], [])

/-- The characters up to three closing double quotes, and the rest after them. A backslash at the
end of a line joins it to the next text; while `joining`, blanks and line ends are passed over. -/
def basicLines? : (joining : Bool) → List Char → Option (List Char × List Char)
  | _, [] => none
  | joining, c :: rest =>
    if joining && (isBlank c || c = '\n') then basicLines? true rest
    else if c = '"' then
      match rest with
      | '"' :: '"' :: rest => some (afterQuotes '"' rest)
      | rest => (basicLines? false rest).map fun p => ('"' :: p.1, p.2)
    else if c = '\\' then
      match rest with
      | [] => none
      | 'u' :: a :: b :: c :: d :: rest =>
        (character? [a, b, c, d]).bind fun x =>
          (basicLines? false rest).map fun p => (x :: p.1, p.2)
      | 'U' :: a :: b :: c :: d :: e :: f :: g :: h :: rest =>
        (character? [a, b, c, d, e, f, g, h]).bind fun x =>
          (basicLines? false rest).map fun p => (x :: p.1, p.2)
      | c :: rest =>
        if (skipBlanks (c :: rest)).head? = some '\n' then basicLines? true rest
        else
          (escaped? c).bind fun x => (basicLines? false rest).map fun p => (x :: p.1, p.2)
    else if isPlain c || c = '\n' then
      (basicLines? false rest).map fun p => (c :: p.1, p.2)
    else none

/-- The characters up to three closing single quotes, and the rest after them. -/
def literalLines? : List Char → Option (List Char × List Char)
  | [] => none
  | '\'' :: '\'' :: '\'' :: rest => some (afterQuotes '\'' rest)
  | c :: rest =>
    if isPlain c || c = '\n' then (literalLines? rest).map fun p => (c :: p.1, p.2) else none

/-- A line end right after the opening quotes does not count. -/
def dropBreak : List Char → List Char
  | '\n' :: rest => rest
  | s => s

/-- A string on one line or on several; none if the text does not start with a quote. -/
def string? (s : List Char) : Option (Option (String × List Char)) :=
  let text := fun p : List Char × List Char => (String.ofList p.1, p.2)
  match s with
  | '"' :: '"' :: '"' :: rest => some ((basicLines? false (dropBreak rest)).map text)
  | '"' :: rest => some ((basicString? rest).map text)
  | '\'' :: '\'' :: '\'' :: rest => some ((literalLines? (dropBreak rest)).map text)
  | '\'' :: rest => some ((literalString? rest).map text)
  | _ => none

/-! ### Keys -/

def isKeyChar (c : Char) : Bool := c.isAlphanum || c = '-' || c = '_'

def simpleKey? (s : List Char) : Option (String × List Char) :=
  match s with
  | '"' :: rest => (basicString? rest).map fun p => (String.ofList p.1, p.2)
  | '\'' :: rest => (literalString? rest).map fun p => (String.ofList p.1, p.2)
  | _ =>
    let key := s.takeWhile isKeyChar
    if key = [] then none else some (String.ofList key, s.dropWhile isKeyChar)

/-- A key of at most `n` parts, and the rest after the blanks behind it. -/
def keyWithin? : (n : Nat) → List Char → Option (List String × List Char)
  | 0, _ => none
  | n + 1, s =>
    (simpleKey? (skipBlanks s)).bind fun (k, rest) =>
      match skipBlanks rest with
      | '.' :: rest => (keyWithin? n rest).map fun p => (k :: p.1, p.2)
      | rest => some ([k], rest)

/-- How many parts a key may have, and how many values may stand inside each other. -/
def limit : Nat := 79

def key? (s : List Char) : Option (List String × List Char) := keyWithin? limit s

end GitTutor.Toml
