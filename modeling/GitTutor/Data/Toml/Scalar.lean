import GitTutor.Calendar
import GitTutor.Data.Toml.Text
import GitTutor.Data.Value

/-!
The numbers, dates and times of a TOML text.

Only the values of integers are kept. Whole digits start with a zero only if it stands alone,
and an underscore may stand between two digits.
-/

namespace GitTutor.Toml

open GitTutor Text

/-! ### Integers -/

/-- Digits with single underscores between them, without the underscores. -/
def plainDigits? : List Char → Option (List Char)
  | [] => some []
  | '_' :: _ => none
  | c :: '_' :: d :: rest =>
    if d = '_' then none else (plainDigits? (d :: rest)).map (c :: ·)
  | c :: rest => (plainDigits? rest).map (c :: ·)

/-- One or more decimal digits. -/
def digits? (s : List Char) : Option (List Char) :=
  (plainDigits? s).filter fun ds => ds ≠ [] && ds.all Char.isDigit

def wholeDigits? (s : List Char) : Option (List Char) :=
  match s with
  | '0' :: _ :: _ => none
  | _ => digits? s

def decimalNatural? (s : List Char) : Option Nat := (wholeDigits? s).bind (number? 10)

def natural? (s : List Char) : Option Nat :=
  match s with
  | '0' :: 'x' :: digits => (plainDigits? digits).bind (number? 16)
  | '0' :: 'o' :: digits => (plainDigits? digits).bind (number? 8)
  | '0' :: 'b' :: digits => (plainDigits? digits).bind (number? 2)
  | digits => decimalNatural? digits

/-- Whether a text starts with a minus, and what follows its sign. -/
def splitSign (s : List Char) : Bool × List Char :=
  match s with
  | '-' :: rest => (true, rest)
  | '+' :: rest => (false, rest)
  | _ => (false, s)

def signed (negative : Bool) (n : Nat) : Int := if negative then -(n : Int) else n

/-- An integer of 64 bits. Only decimal digits may have a sign. -/
def integer? (s : List Char) : Option Int :=
  let (negative, digits) := splitSign s
  let n? := if digits.length < s.length then decimalNatural? digits else natural? digits
  (n?.map (signed negative)).filter fun n =>
    Int64.minValue.toInt ≤ n ∧ n ≤ Int64.maxValue.toInt

/-! ### Decimals -/

/-- The number whose digits are `digits`, times ten to the power `exponent`. -/
structure Decimal where
  negative : Bool
  digits : List Char
  exponent : Int

/-- Digits with a fraction, an exponent or both. -/
def Decimal.ofChars? (s : List Char) : Option Decimal := do
  let (negative, s) := splitSign s
  let isMark := fun c : Char => c = 'e' || c = 'E'
  let mantissa := s.takeWhile (!isMark ·)
  let (fraction, scale) ←
    match mantissa.dropWhile (· ≠ '.'), s.dropWhile (!isMark ·) with
    | [], [] => none
    | [], _ :: power => some ([], some power)
    | _ :: places, [] => (digits? places).map fun ds => (ds, none)
    | _ :: places, _ :: power => (digits? places).map fun ds => (ds, some power)
  let power ←
    match scale with
    | none => some (0 : Int)
    | some power =>
      let (negative, power) := splitSign power
      ((digits? power).bind (number? 10)).map (signed negative)
  let whole ← wholeDigits? (mantissa.takeWhile (· ≠ '.'))
  return ⟨negative, whole ++ fraction, power - fraction.length⟩

/-- The least number that a double of 64 bits cannot hold: half a step above the greatest. -/
def doubleBound : Nat := Nat.pow 2 1024 - Nat.pow 2 970

/-- Whether the number without its sign is too large for a double of 64 bits. -/
def Decimal.overflows (d : Decimal) : Bool :=
  let digits := d.digits.dropWhile (· = '0')
  let magnitude := digits.length + d.exponent
  let n := Nat.ofDigitChars 10 digits 0
  if digits = [] ∨ magnitude < 309 then false
  else if 309 < magnitude then true
  else if 0 ≤ d.exponent then doubleBound ≤ n * Nat.pow 10 d.exponent.toNat
  else doubleBound * Nat.pow 10 (-d.exponent).toNat ≤ n

/-- Whether a text is a number that is no integer. One that is too large counts only with a minus;
infinities and numbers that are not defined have names. -/
def isDecimal (s : List Char) : Bool :=
  match Decimal.ofChars? s with
  | some d => d.negative || !d.overflows
  | none => String.ofList (splitSign s).2 ∈ ["inf", "nan"]

/-! ### Dates and times -/

/-- A number of two digits, which lies from `low` up to `high`. -/
def twoDigits? (low high : Nat) : List Char → Option (Nat × List Char)
  | a :: b :: rest =>
    (number? 10 [a, b]).bind fun n => if low ≤ n ∧ n ≤ high then some (n, rest) else none
  | _ => none

def afterChar? (c : Char) : List Char → Option (List Char)
  | [] => none
  | d :: rest => if d = c then some rest else none

/-- What follows a date as in 2023-11-14. -/
def afterDate? (s : List Char) : Option (List Char) := do
  let year ← number? 10 (s.take 4)
  let s ← afterChar? '-' (s.drop 4)
  let (month, s) ← twoDigits? 1 12 s
  let s ← afterChar? '-' s
  let (_, s) ← twoDigits? 1 (Calendar.monthLength year month) s
  return s

def skipFraction (s : List Char) : List Char :=
  match s with
  | '.' :: d :: rest => if d.isDigit then rest.dropWhile Char.isDigit else s
  | _ => s

/-- What follows a time as in 22:13:20.5; the last minute may have a leap second. -/
def afterTime? (s : List Char) : Option (List Char) := do
  let (_, s) ← twoDigits? 0 23 s
  let s ← afterChar? ':' s
  let (_, s) ← twoDigits? 0 59 s
  let s ← afterChar? ':' s
  let (_, s) ← twoDigits? 0 60 s
  return skipFraction s

/-- What follows the distance of a time from universal time, if it is given. -/
def afterOffset? (s : List Char) : Option (List Char) :=
  match s with
  | [] => some s
  | c :: rest =>
    if c = 'Z' ∨ c = 'z' then some rest
    else if c = '+' ∨ c = '-' then do
      let (_, rest) ← twoDigits? 0 23 rest
      let rest ← afterChar? ':' rest
      let (_, rest) ← twoDigits? 0 59 rest
      return rest
    else some s

/-- What follows a date, a time, or a date and a time. -/
def afterMoment? (s : List Char) : Option (List Char) :=
  match afterDate? s with
  | none => afterTime? s
  | some rest =>
    match rest with
    | [] => some rest
    | c :: clock =>
      if c = 'T' ∨ c = 't' ∨ c = ' ' then
        match afterTime? clock with
        | some rest => afterOffset? rest
        | none => some rest
      else some rest

/-! ### Scalars -/

def isScalarChar (c : Char) : Bool := c.isAlphanum || c = '+' || c = '-' || c = '.' || c = '_'

/-- The value of a word that is no string. -/
def word? (s : List Char) : Option Value :=
  if s = "true".toList then some (.bool true)
  else if s = "false".toList then some (.bool false)
  else
    match integer? s with
    | some n => some (.int n)
    | none => if isDecimal s then some (.scalar (String.ofList s)) else none

/-- A boolean, a number, a date or a time at the start of the text. -/
def scalar? (s : List Char) : Option (Value × List Char) :=
  match afterMoment? s with
  | some rest => some (.scalar (String.ofList (s.take (s.length - rest.length))), rest)
  | none => (word? (s.takeWhile isScalarChar)).map fun v => (v, s.dropWhile isScalarChar)

end GitTutor.Toml
