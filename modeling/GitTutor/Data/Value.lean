/-!
Values of a data document: what the JSON and TOML readers produce and records are read from.

A record may be written as an object, whose members have names, or as the list of its members
in order. Members that a record does not know are passed over, whatever they are, and none that it
knows may stand twice. Whether a list may go on after the members of its record is up to the format
(`Surplus`).
-/

namespace GitTutor

inductive Value where
  | null
  | bool (b : Bool)
  | int (n : Int)
  /-- A number that is no integer, a date, a time, or what no value stands for, as written. -/
  | scalar (literal : String)
  | text (s : String)
  | list (items : List Value)
  | object (members : List (String × Value))

namespace Value

variable {α : Type}

def text? : Value → Option String
  | .text s => some s
  | _ => none

/-- One of a set of names. It may also stand as the name of the only member of an object, which
is null. -/
def name? : Value → Option String
  | .text s => some s
  | .object [(s, .null)] => some s
  | _ => none

/-- An integer from `low` up to `high`. -/
def intIn? (low high : Int) : Value → Option Int
  | .int n => if low ≤ n ∧ n ≤ high then some n else none
  | _ => none

/-- A signed integer of 64 bits. -/
def int64? (v : Value) : Option Int64 :=
  (v.intIn? Int64.minValue.toInt Int64.maxValue.toInt).map Int64.ofInt

/-- An unsigned integer of 64 bits. -/
def uint64? (v : Value) : Option UInt64 :=
  (v.intIn? 0 (UInt64.size - 1)).map fun n => UInt64.ofNat n.toNat

def list? (read : Value → Option α) : Value → Option (List α)
  | .list items => items.mapM read
  | _ => none

/-- Reads a value that may be null. -/
def nullable? (read : Value → Option α) : Value → Option (Option α)
  | .null => some none
  | v => (read v).map some

/-- The text member that tells which kind of record a value is; in a list it stands first. -/
def tag? (name : String) : Value → Option String
  | .object ms => (ms.lookup name).bind text?
  | .list (.text s :: _) => some s
  | _ => none

/-- What a format does with the items of a list that its record has no members for. -/
inductive Surplus where
  | refused
  | ignored
  deriving DecidableEq

/-- The members of a record whose member names are `names`. -/
def members? (surplus : Surplus) (names : List String) : Value → Option (List (String × Value))
  | .object ms => if names.all fun name => (ms.map (·.1)).count name ≤ 1 then some ms else none
  | .list items =>
    if items.length ≤ names.length ∨ surplus = .ignored then some (names.zip items) else none
  | _ => none

def required? (ms : List (String × Value)) (name : String) (read : Value → Option α) :
    Option α :=
  (ms.lookup name).bind read

/-- A member that may be missing. -/
def optional? (ms : List (String × Value)) (name : String) (missing : α)
    (read : Value → Option α) : Option α :=
  match ms.lookup name with
  | none => some missing
  | some v => read v

end Value

end GitTutor
