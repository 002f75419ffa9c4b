import GitTutor.Data.Value

/-!
The tables that a TOML text builds up.

A table remembers how it came to be, which decides what may still be added to it. `Node.toValue`
forgets that.
-/

namespace GitTutor.Toml

/-- How a table came to be. -/
inductive Origin where
  /-- By the header of a table below it; its own header may still follow. -/
  | implied
  /-- By its own header. -/
  | header
  /-- By a key with dots. -/
  | dotted
  deriving DecidableEq

/-- What a key holds: a finished value, a table, or a list of tables that headers opened. -/
inductive Node where
  | leaf (v : Value)
  | table (origin : Origin) (members : List (String × Node))
  | tables (elements : List (List (String × Node)))

abbrev Members := List (String × Node)

mutual

def Node.toValue : Node → Value
  | .leaf v => v
  | .table _ ms => .object (membersToValues ms)
  | .tables elements => .list (elementsToValues elements)

def membersToValues : List (String × Node) → List (String × Value)
  | [] => []
  | (k, node) :: ms => (k, node.toValue) :: membersToValues ms

def elementsToValues : List (List (String × Node)) → List Value
  | [] => []
  | ms :: elements => .object (membersToValues ms) :: elementsToValues elements

end

def replace (k : String) (node : Node) (ms : Members) : Members :=
  ms.map fun m => if m.1 = k then (k, node) else m

/-- Sets a key that is not there yet. Its dots lead through tables, of which the last is made by
such keys alone, and none by a header of its own. -/
def setKey (v : Value) : (key : List String) → Members → Option Members
  | [], _ => none
  | [k], ms => if (ms.lookup k).isSome then none else some (ms ++ [(k, .leaf v)])
  | k :: key, ms =>
    match ms.lookup k with
    | none => (setKey v key []).map fun sub => ms ++ [(k, .table .dotted sub)]
    | some (.table .dotted sub) =>
      (setKey v key sub).map fun sub => replace k (.table .dotted sub) ms
    | some (.table .implied sub) =>
      if key.length = 1 then none
      else (setKey v key sub).map fun sub => replace k (.table .implied sub) ms
    | some (.tables elements) =>
      if key.length = 1 then none
      else
        elements.getLast?.bind fun last =>
          (setKey v key last).map fun last =>
            replace k (.tables (elements.dropLast ++ [last])) ms
    | some (.table .header _) => none
    | some (.leaf _) => none

/-- Changes the table that headers call `path`; tables on the way that are missing are made. -/
def changeAt (change : Members → Option Members) : (path : List String) → Members → Option Members
  | [], ms => change ms
  | k :: path, ms =>
    match ms.lookup k with
    | none => (changeAt change path []).map fun sub => ms ++ [(k, .table .implied sub)]
    | some (.table origin sub) =>
      (changeAt change path sub).map fun sub => replace k (.table origin sub) ms
    | some (.tables elements) =>
      elements.getLast?.bind fun last =>
        (changeAt change path last).map fun last =>
          replace k (.tables (elements.dropLast ++ [last])) ms
    | some (.leaf _) => none

/-- Opens the table of a header. -/
def openTable (k : String) (ms : Members) : Option Members :=
  match ms.lookup k with
  | none => some (ms ++ [(k, .table .header [])])
  | some (.table .implied sub) => some (replace k (.table .header sub) ms)
  | some _ => none

/-- Opens one more element in the list of tables of a header. -/
def openElement (k : String) (ms : Members) : Option Members :=
  match ms.lookup k with
  | none => some (ms ++ [(k, .tables [[]])])
  | some (.tables elements) => some (replace k (.tables (elements ++ [[]])) ms)
  | some _ => none

/-- Opens what a header names by its last key, in the table that the keys before it name. -/
def openPath (opens : String → Members → Option Members) (path : List String) (ms : Members) :
    Option Members :=
  path.getLast?.bind fun k => changeAt (opens k) path.dropLast ms

end GitTutor.Toml
