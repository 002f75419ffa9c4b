import GitTutor.Host.Record

/-!
Where the host keeps its record between commands.

A store keeps the record as it is, or as a document. Its calls can be made to fail; a call that
fails changes nothing.
-/

namespace GitTutor

inductive Medium where
  | memory (record : Option Record)
  | document (text : Option String)
  deriving DecidableEq

/-- Which calls fail. -/
structure Faults where
  load : Bool
  save : Bool
  clear : Bool
  deriving DecidableEq

def Faults.none : Faults := ⟨false, false, false⟩

inductive StoreError where
  | failed (call : String)
  | unreadable
  deriving DecidableEq

def StoreError.message : StoreError → String
  | failed call => s!"I/O error: {call} failed"
  | unreadable => "JSON error: the document is not a record"

structure Store where
  medium : Medium
  faults : Faults
  deriving DecidableEq

namespace Medium

def load : Medium → Except StoreError (Option Record)
  | memory record => .ok record
  | document none => .ok none
  | document (some text) =>
    match Record.ofDocument? text with
    | some record => .ok (some record)
    | none => .error .unreadable

def save (m : Medium) (record : Record) : Medium :=
  match m with
  | memory _ => memory (some record)
  | document _ => document (some record.document)

def clear : Medium → Medium
  | memory _ => memory none
  | document _ => document none

end Medium

namespace Store

def inMemory : Store := ⟨.memory none, .none⟩

def asDocument (text : Option String) : Store := ⟨.document text, .none⟩

def load (s : Store) : Except StoreError (Option Record) :=
  if s.faults.load then .error (.failed "load") else s.medium.load

def save (s : Store) (record : Record) : Except StoreError Store :=
  if s.faults.save then .error (.failed "save")
  else .ok { s with medium := s.medium.save record }

def clear (s : Store) : Except StoreError Store :=
  if s.faults.clear then .error (.failed "clear") else .ok { s with medium := s.medium.clear }

end Store

end GitTutor
