import GitTutor.Digest.Sha256
import GitTutor.Table

/-!
Commits and their ids.

A commit records a whole tree of files. Its id is the start of a hash over everything that it
records, written as one text (`Snapshot.encode`).
-/

namespace GitTutor

/-- The contents of files by path. -/
abbrev Tree := Table String

/-- Who made a commit. -/
structure Signature where
  name : String
  email : String
  deriving DecidableEq

def Signature.text (s : Signature) : String := s.name ++ " <" ++ s.email ++ ">"

/-- Forty lower case hexadecimal digits. -/
structure CommitId where
  hex : String
  deriving DecidableEq

/-- The seven digits that learners are shown. -/
def CommitId.short (id : CommitId) : String := String.ofList (id.hex.toList.take 7)

/-- What a commit records. -/
structure Snapshot where
  tree : Tree
  parents : List CommitId
  author : Signature
  /-- When it was made, in seconds since 1970. -/
  seconds : Int64
  /-- How many commits the repository had before. -/
  seq : Nat
  message : String
  deriving DecidableEq

namespace Snapshot

def encodeFile (file : String × String) : List Char :=
  file.1.toList ++ '\x00' :: file.2.toList ++ ['\x00']

def encodeParent (parent : CommitId) : List Char :=
  "parent ".toList ++ parent.hex.toList ++ ['\n']

def encodeOrigin (s : Snapshot) : List Char :=
  "author ".toList ++ s.author.text.toList ++ ' ' :: (toString s.seconds.toInt).toList ++
    "\nseq ".toList ++ (toString s.seq).toList ++ "\n\n".toList

/-- Everything that a commit records: its files, its parents, where it comes from, its message. -/
def encode (s : Snapshot) : List Char :=
  s.tree.entries.flatMap encodeFile ++ s.parents.flatMap encodeParent ++ s.encodeOrigin ++
    s.message.toList

def bytes (s : Snapshot) : List UInt8 := (String.ofList s.encode).toUTF8.toList

def id (s : Snapshot) : CommitId := ⟨String.ofList ((Sha256.hexHash s.bytes).take 40)⟩

end Snapshot

structure Commit extends Snapshot where
  id : CommitId
  deriving DecidableEq

def Commit.ofSnapshot (s : Snapshot) : Commit := { s with id := s.id }

end GitTutor
