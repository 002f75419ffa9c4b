import GitTutor.Data.Toml.Scalar
import GitTutor.Data.Toml.Table

/-!
Reading configuration texts in TOML.

A text is a row of statements: a header moves to another table, and a pair sets a key in the
table at hand. Lists go over several lines; inline tables stand on one.
-/

namespace GitTutor.Toml

open GitTutor Text

/-! ### Compound values -/

mutual

/-- A value at the start of the text. At most `levels` lists and tables stand inside each other,
and `n` bounds the readers. -/
def value? : (n levels : Nat) → List Char → Option (Value × List Char)
  | 0, _, _ => none
  | n + 1, levels, s =>
    match string? s with
    | some found => found.map fun p => (.text p.1, p.2)
    | none =>
      match s, levels with
      | '[' :: rest, levels + 1 => (items? n levels rest).map fun p => (.list p.1, p.2)
      | '\x7b' :: rest, levels + 1 =>
        match skipBlanks rest with
        | '\x7d' :: rest => some (.object [], rest)
        | rest => (members? n levels [] rest).map fun p => (.object (membersToValues p.1), p.2)
      | s, _ => scalar? s

/-- The items of a list up to its closing bracket; a comma may follow the last one. -/
def items? : (n levels : Nat) → List Char → Option (List Value × List Char)
  | 0, _, _ => none
  | n + 1, levels, s =>
    match skipLines n s with
    | ']' :: rest => some ([], rest)
    | s =>
      (value? n levels s).bind fun (v, rest) =>
        match skipLines n rest with
        | ']' :: rest => some ([v], rest)
        | ',' :: rest => (items? n levels rest).map fun p => (v :: p.1, p.2)
        | _ => none

/-- The members of an inline table up to its closing brace, after those in `ms`. -/
def members? : (n levels : Nat) → Members → List Char → Option (Members × List Char)
  | 0, _, _, _ => none
  | n + 1, levels, ms, s =>
    (key? s).bind fun (key, rest) =>
      match rest with
      | '=' :: rest =>
        (value? n levels (skipBlanks rest)).bind fun (v, rest) =>
          (setKey v key ms).bind fun ms =>
            match skipBlanks rest with
            | '\x7d' :: rest => some (ms, rest)
            | ',' :: rest => members? n levels ms rest
            | _ => none
      | _ => none

end

/-! ### Documents -/

/-- Reads statements into the members of a document; `path` names the table at hand, and `n`
bounds the statements. -/
def statements? : (n : Nat) → (path : List String) → Members → List Char → Option Members
  | 0, _, _, _ => none
  | n + 1, path, ms, s =>
    match skipLines n s with
    | [] => some ms
    | '[' :: '[' :: rest =>
      (key? rest).bind fun (key, rest) =>
        match rest with
        | ']' :: ']' :: rest =>
          (afterLine? rest).bind fun rest =>
            (openPath openElement key ms).bind fun ms => statements? n key ms rest
        | _ => none
    | '[' :: rest =>
      (key? rest).bind fun (key, rest) =>
        match rest with
        | ']' :: rest =>
          (afterLine? rest).bind fun rest =>
            (openPath openTable key ms).bind fun ms => statements? n key ms rest
        | _ => none
    | s =>
      (key? s).bind fun (key, rest) =>
        match rest with
        | '=' :: rest =>
          (value? n limit (skipBlanks rest)).bind fun (v, rest) =>
            (afterLine? rest).bind fun rest =>
              (changeAt (setKey v key) path ms).bind fun ms =>
                statements? n path ms rest
        | _ => none

/-- A mark of the byte order at the start of a text does not count. -/
def dropByteOrderMark : List Char → List Char
  | '\ufeff' :: rest => rest
  | s => s

/-- The object that a whole text writes. -/
def ofText? (s : String) : Option Value :=
  let cs := unifyBreaks (dropByteOrderMark s.toList)
  (statements? (2 * cs.length + 2) [] [] cs).map fun ms => .object (membersToValues ms)

end GitTutor.Toml
