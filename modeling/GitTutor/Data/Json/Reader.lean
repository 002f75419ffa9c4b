import GitTutor.Data.Json.Printer

/-!
Reading JSON texts.

Each reader takes a start of the text and gives the rest. An integer is a number without
fraction and exponent; minus zero counts as a decimal, since no integer is written so. A text that
spells half of a character is no text, and an object with such a name has no members; both are kept
as they are written, so that they can be passed over.
-/

namespace GitTutor.Json

open GitTutor Text

def isBlank (c : Char) : Bool := c = ' ' || c = '\n' || c = '\r' || c = '\t'

def skipBlanks (s : List Char) : List Char := s.dropWhile isBlank

/-- The character that a letter after a backslash stands for. -/
def escaped? (c : Char) : Option Char :=
  if c = quote ∨ c = backslash ∨ c = '/' then some c
  else if c = 'n' then some '\n'
  else if c = 'r' then some '\r'
  else if c = 't' then some '\t'
  else if c = 'b' then some '\x08'
  else if c = 'f' then some '\x0c'
  else none

def isHighSurrogate (n : Nat) : Bool := 0xd800 ≤ n && n < 0xdc00
def isLowSurrogate (n : Nat) : Bool := 0xdc00 ≤ n && n < 0xe000

/-- What one place of a quoted text spells. -/
inductive Spelling where
  | whole (c : Char)
  /-- A surrogate, which is half of a character. -/
  | half (n : Nat)

def Spelling.ofNat (n : Nat) : Spelling :=
  if isHighSurrogate n || isLowSurrogate n then .half n else .whole (Char.ofNat n)

/-- What the places up to the closing quote spell, and the rest after it. -/
def spellings? : List Char → Option (List Spelling × List Char)
  | [] => none
  | '"' :: rest => some ([], rest)
  | '\\' :: 'u' :: a :: b :: c :: d :: rest =>
    match number? 16 [a, b, c, d] with
    | none => none
    | some n => (spellings? rest).map fun p => (.ofNat n :: p.1, p.2)
  | '\\' :: c :: rest =>
    match escaped? c with
    | none => none
    | some x => (spellings? rest).map fun p => (.whole x :: p.1, p.2)
  | c :: rest =>
    if c.toNat < 0x20 then none else (spellings? rest).map fun p => (.whole c :: p.1, p.2)

/-- The characters that are spelled, if each half has its other half behind it. -/
def joined? : List Spelling → Option (List Char)
  | [] => some []
  | .whole c :: rest => (joined? rest).map (c :: ·)
  | .half n :: .half m :: rest =>
    if isHighSurrogate n && isLowSurrogate m then
      (joined? rest).map (Char.ofNat (0x10000 + 0x400 * (n - 0xd800) + (m - 0xdc00)) :: ·)
    else none
  | .half _ :: _ => none

def isNumberChar (c : Char) : Bool :=
  c.isDigit || c = '-' || c = '+' || c = '.' || c = 'e' || c = 'E'

/-- Digits without a needless zero in front. -/
def natural? (s : List Char) : Option Nat :=
  if s ≠ [] ∧ s.all Char.isDigit ∧ (s.head? ≠ some '0' ∨ s = ['0']) then
    some (Nat.ofDigitChars 10 s 0)
  else none

/-- Digits, with a fraction and an exponent after them if there are any. -/
def isDecimal (s : List Char) : Bool :=
  let whole := s.takeWhile Char.isDigit
  let (fractionOk, rest) :=
    match s.dropWhile Char.isDigit with
    | '.' :: r => (r.head?.any Char.isDigit, r.dropWhile Char.isDigit)
    | r => (true, r)
  let exponentOk :=
    match rest with
    | [] => true
    | e :: r =>
      let digits := if r.head? = some '+' ∨ r.head? = some '-' then r.drop 1 else r
      (e = 'e' || e = 'E') && digits ≠ [] && digits.all Char.isDigit
  (natural? whole).isSome && fractionOk && exponentOk

/-- The number that a run of number characters writes. -/
def numeral? (s : List Char) : Option Value :=
  match s with
  | '-' :: digits =>
    match natural? digits with
    | some 0 => some (.scalar (String.ofList s))
    | some (n + 1) => some (.int (.negSucc n))
    | none => if isDecimal digits then some (.scalar (String.ofList s)) else none
  | _ =>
    match natural? s with
    | some n => some (.int (.ofNat n))
    | none => if isDecimal s then some (.scalar (String.ofList s)) else none

/-- What follows `word` in the text. -/
def afterWord? (word : String) (s : List Char) : Option (List Char) :=
  if word.toList.isPrefixOf s then some (s.drop word.length) else none

/-- A value that ends where `rest` begins. If there is none, the text is kept as it is written. -/
def orWritten (s rest : List Char) (v : Option Value) : Value :=
  v.getD (.scalar (String.ofList (s.take (s.length - rest.length))))

def member? (name : List Spelling) (v : Value) (ms : Option (List (String × Value))) :
    Option (List (String × Value)) :=
  (joined? name).bind fun name => ms.map ((String.ofList name, v) :: ·)

mutual

/-- A value at the start of the text. `depth` bounds the readers that stand inside each other. -/
def value? : (depth : Nat) → List Char → Option (Value × List Char)
  | 0, _ => none
  | depth + 1, s =>
    match skipBlanks s with
    | [] => none
    | c :: rest =>
      if c = quote then
        (spellings? rest).map fun (text, after) =>
          (orWritten (c :: rest) after ((joined? text).map (.text <| String.ofList ·)), after)
      else if c = '[' then
        match skipBlanks rest with
        | ']' :: rest => some (.list [], rest)
        | rest => (items? depth rest).map fun p => (.list p.1, p.2)
      else if c = openBrace then
        match skipBlanks rest with
        | '\x7d' :: rest => some (.object [], rest)
        | start =>
          (members? depth start).map fun (ms, after) =>
            (orWritten (c :: rest) after (ms.map .object), after)
      else if c = 'n' then (afterWord? "ull" rest).map fun rest => (.null, rest)
      else if c = 't' then (afterWord? "rue" rest).map fun rest => (.bool true, rest)
      else if c = 'f' then (afterWord? "alse" rest).map fun rest => (.bool false, rest)
      else
        (numeral? ((c :: rest).takeWhile isNumberChar)).map fun v =>
          (v, (c :: rest).dropWhile isNumberChar)

/-- The items of a list up to its closing bracket. -/
def items? : (depth : Nat) → List Char → Option (List Value × List Char)
  | 0, _ => none
  | depth + 1, s =>
    (value? depth s).bind fun (v, rest) =>
      match skipBlanks rest with
      | ']' :: rest => some ([v], rest)
      | ',' :: rest => (items? depth rest).map fun p => (v :: p.1, p.2)
      | _ => none

/-- The members of an object, if all of their names have characters, and what follows its closing
brace. -/
def members? : (depth : Nat) → List Char → Option (Option (List (String × Value)) × List Char)
  | 0, _ => none
  | depth + 1, s =>
    match skipBlanks s with
    | '"' :: rest =>
      (spellings? rest).bind fun (name, rest) =>
        match skipBlanks rest with
        | ':' :: rest =>
          (value? depth rest).bind fun (v, rest) =>
            match skipBlanks rest with
            | '\x7d' :: rest => some (member? name v (some []), rest)
            | ',' :: rest =>
              (members? depth rest).map fun (ms, rest) => (member? name v ms, rest)
            | _ => none
        | _ => none
    | _ => none

end

/-- The value that a whole text writes. Every second reader takes a character, which bounds how
many stand inside each other. -/
def ofText? (s : String) : Option Value :=
  match value? (2 * s.length + 2) s.toList with
  | some (v, rest) => if skipBlanks rest = [] then some v else none
  | none => none

end GitTutor.Json
