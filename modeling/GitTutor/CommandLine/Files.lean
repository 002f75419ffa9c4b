/-!
The files that the tutor reads and writes.

`Files` is what it needs of a file system. `Disk` is a file system as a value: paths that are
made of names, and what stands at each. Names have at most 255 bytes and whole paths 4095.
-/

namespace GitTutor

inductive FileText where
  | text (content : String)
  | missing
  | failed (reason : String)

/-- A file system whose operations have effects of `m`. -/
structure Files (m : Type → Type) where
  read : String → m FileText
  pathExists : String → m Bool
  /-- Makes a directory and those above it, and says whether it is there. -/
  makeDirectories : String → m Bool
  /-- Writes a whole file, and says whether that worked. -/
  write : String → String → m Bool

/-- A path of a name in a directory. -/
def inDirectory (directory name : String) : String :=
  if directory.isEmpty || directory.toList.getLast? = some '/' then directory ++ name
  else directory ++ "/" ++ name

/-- The names that a path is made of. -/
def pathNames (path : String) : List String :=
  ((path.toList.splitOn '/').map String.ofList).filter fun n => n ≠ "" && n ≠ "."

/-- Whether a path ends in a step that stays where it is. Such a step has to find its directory,
so only those above it can be made. -/
def endsInPlace (path : String) : Bool :=
  (((path.toList.splitOn '/').map String.ofList).filter (· ≠ "")).getLast? = some "."

/-- A step of a walk: up, or to a name in a directory. -/
def child (directory : List String) (name : String) : List String :=
  if name = ".." then directory.dropLast else directory ++ [name]

inductive DiskEntry where
  | directory
  | file (content : String)

/-- What stands at paths below the root. Later entries replace earlier ones. -/
structure Disk where
  entries : List (List String × DiskEntry)

namespace Disk

def empty : Disk := ⟨[]⟩

def find? (d : Disk) (path : List String) : Option DiskEntry :=
  if path.isEmpty then some .directory else d.entries.lookup path

def place (d : Disk) (path : List String) (entry : DiskEntry) : Disk :=
  ⟨(path, entry) :: d.entries⟩

/-- Why a path leads nowhere. -/
inductive Obstacle where
  | missing
  | notDirectory
  | tooLong
  /-- The path holds a null character. -/
  | invalid

def Obstacle.fileText : Obstacle → FileText
  | .missing => .missing
  | .notDirectory => .failed "Not a directory (os error 20)"
  | .tooLong => .failed "File name too long (os error 36)"
  | .invalid => .failed "file name contained an unexpected NUL byte"

def longestName : Nat := 255
def longestPath : Nat := 4095

def isTooLong (name : String) : Bool := longestName < name.utf8ByteSize

/-- The names of a path that is not refused as a whole. -/
def names? (path : String) : Except Obstacle (List String) :=
  if '\x00' ∈ path.toList then .error .invalid
  else if longestPath < path.utf8ByteSize then .error .tooLong
  else .ok (pathNames path)

/-- Walks from a directory along names to the last one. -/
def walk (d : Disk) (at_ : List String) : List String → Except Obstacle (List String)
  | [] => .ok at_
  | name :: rest =>
    match d.find? at_ with
    | some .directory => if isTooLong name then .error .tooLong else walk d (child at_ name) rest
    | some (.file _) => .error .notDirectory
    | none => .error .missing

/-- Where a path leads to from the root. -/
def locate (d : Disk) (path : String) : Except Obstacle (List String) :=
  (names? path).bind (d.walk [])

def readText (d : Disk) (path : String) : FileText :=
  match d.locate path with
  | .error obstacle => obstacle.fileText
  | .ok found =>
    match d.find? found with
    | some (.file content) => .text content
    | some .directory => .failed "Is a directory (os error 21)"
    | none => .missing

def hasPath (d : Disk) (path : String) : Bool :=
  match d.locate path with
  | .ok found => (d.find? found).isSome
  | .error _ => false

def hasDirectory (d : Disk) (names : List String) : Bool :=
  match d.walk [] names with
  | .error _ => false
  | .ok found =>
    match d.find? found with
    | some .directory => true
    | _ => false

/-- Makes the directories along names; gives the disk that is left and whether all could be made. -/
def makeAlong (d : Disk) (at_ : List String) : List String → Disk × Bool
  | [] => (d, true)
  | name :: rest =>
    let next := child at_ name
    if isTooLong name then (d, false)
    else
      match d.find? next with
      | some .directory => makeAlong d next rest
      | some (.file _) => (d, false)
      | none => makeAlong (d.place next .directory) next rest

/-- Makes the directory of a path and those above it; gives the disk that is left and whether the
directory is there. -/
def makePath (d : Disk) (path : String) : Disk × Bool :=
  match names? path with
  | .error _ => (d, false)
  | .ok names =>
    if endsInPlace path then
      let (d, made) := d.makeAlong [] names.dropLast
      (d, made && d.hasDirectory names)
    else d.makeAlong [] names

def writeText (d : Disk) (path content : String) : Disk × Bool :=
  match d.locate path with
  | .ok found => (d.place found (.file content), true)
  | .error _ => (d, false)

/-- A disk as a file system that changes it. -/
def files : Files (StateM Disk) where
  read path := do return (← get).readText path
  pathExists path := do return (← get).hasPath path
  makeDirectories path := do
    let (d, made) := (← get).makePath path
    set d
    return made
  write path content := do
    let (d, written) := (← get).writeText path content
    set d
    return written

end Disk

end GitTutor
