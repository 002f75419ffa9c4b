import GitTutor.CommandLine.Arguments
import GitTutor.CommandLine.Files
import GitTutor.Settings
import GitTutor.Shell

/-!
Running the tutor from its arguments.

The settings are read first, then the arguments. The shell keeps the record of the host in a
document below the state directory, or in memory where it cannot open one.
-/

namespace GitTutor

/-- Where the tutor runs: its home directory and its two variables. -/
structure Environment where
  home : Option String
  author : Option String
  activity : Option String

structure Exit where
  code : Nat
  output : String
  errors : String
  deriving DecidableEq

namespace CommandLine

variable {m : Type → Type} [Monad m]

def success (output : String) : Exit := ⟨0, output, ""⟩

def failure (reason : String) : Exit := ⟨1, "", "Error: " ++ reason⟩

def usageText : String :=
  "Usage: git-trainer [--state-dir <DIR>] [--author <AUTHOR>] <activities|shell|remote>"

/-- What the arguments lead to: an end, or a shell with its greeting and perhaps the path of the
document that it keeps. -/
inductive Start where
  | exit (e : Exit)
  | shell (shell : Shell) (greeting : String) (document : Option String)

/-- A variable that is empty counts as unset. -/
def filled? (value : Option String) : Option String := value.filter (!·.isEmpty)

def readSettings (files : Files m) (home : Option String) : m (Except String Settings) :=
  match home with
  | none => return .ok .empty
  | some home => do
    let path := Settings.path home
    match ← files.read path with
    | .missing => return .ok .empty
    | .failed reason => return .error s!"failed to read {path}: {reason}"
    | .text content =>
      match Settings.ofText? content with
      | some settings => return .ok settings
      | none => return .error ("invalid config at " ++ path)

def documentPath (directory : String) : String := inDirectory directory "remote.sqlite"

def fileScheme : List Char := "file:".toList

/-- The path of the file that keeps a document. The path may be written as the address of a
file. -/
def documentFile (path : String) : String :=
  let cs := path.toList
  if fileScheme.isPrefixOf cs then String.ofList (cs.drop fileScheme.length) else path

/-- The longest path of a document, in bytes. -/
def longestDocument : Nat := 504

/-- The bytes of a path once no step of it leads up. -/
def resolvedLength (path : String) : Nat :=
  ((pathNames path).foldl child []).foldl (fun n name => n + 1 + name.utf8ByteSize) 0

/-- Opens the document in a directory, which are both made if they are missing; gives its text
and the path of its file. -/
def openDocument (files : Files m) (directory : String) : m (Except String (String × String)) := do
  let path := documentPath directory
  let file := documentFile path
  let unopened := Except.error ("SQLite error: unable to open database file: " ++ path)
  if ← files.makeDirectories directory then
    if longestDocument < resolvedLength file then return unopened
    else
      match ← files.read file with
      | .text content => return .ok (content, file)
      | .failed _ => return unopened
      | .missing =>
        if ← files.write file "" then return .ok ("", file) else return unopened
  else return .error ("I/O error: " ++ directory)

def storeOfDocument (content : String) : Store :=
  .asDocument (if content.isEmpty then none else some content)

/-- The store of a shell, and the path of its document if it has one. -/
def openStore (files : Files m) (directory : Option String) : m (Store × Option String) :=
  match directory with
  | none => return (.inMemory, none)
  | some directory => do
    match ← openDocument files directory with
    | .ok (content, file) => return (storeOfDocument content, some file)
    | .error _ => return (.inMemory, none)

def startShell (files : Files m) (env : Environment) (settings : Settings) (options : Options) :
    m Start := do
  let id := settings.activity options.activity (filled? env.activity)
  match Catalog.find? Builtin.activities id with
  | none =>
    let known := ", ".intercalate (Builtin.activities.map (·.id))
    return .exit (failure s!"unknown activity: {id} (available: {known})")
  | some activity =>
    let (store, document) ←
      if options.memory then pure (Store.inMemory, none)
      else openStore files (settings.stateDirectory options.stateDir env.home)
    let session := Session.new store (settings.author options.author (filled? env.author))
    match session.select (some activity) with
    | (.error e, _) =>
      return .exit (failure ("failed to reset the simulated remote: " ++ e.message))
    | (.ok (), session) =>
      let (shell, greeting) := Shell.start session
      return .shell shell greeting document

def noRecord : Exit := success "No simulated remote repository\n"

/-- Shows the record that a shell has left. -/
def showRecord (files : Files m) (directory : Option String) : m Exit :=
  match directory with
  | none => return failure "could not determine home directory"
  | some directory => do
    if ← files.pathExists (documentPath directory) then
      match ← openDocument files directory with
      | .error reason => return failure s!"failed to open {directory}: {reason}"
      | .ok (content, _) =>
        match (storeOfDocument content).load with
        | .error e => return failure ("failed to read the simulated remote: " ++ e.message)
        | .ok none => return noRecord
        | .ok (some record) => return success (Json.toLines record.toValue ++ "\n")
    else return noRecord

/-- Reads the settings and the arguments, and does what they ask for short of running a shell. -/
def start (files : Files m) (env : Environment) (args : List String) : m Start := do
  match ← readSettings files env.home with
  | .error reason => return .exit (failure reason)
  | .ok settings =>
    match Arguments.ofList? args with
    | none => return .exit ⟨2, "", usageText⟩
    | some .help => return .exit (success (usageText ++ "\n"))
    | some (.run .activities _) =>
      return .exit (success (Report.activities Builtin.activities ++ "\n"))
    | some (.run .remote options) =>
      return .exit (← showRecord files (settings.stateDirectory options.stateDir env.home))
    | some (.run .shell options) => startShell files env settings options

/-- Writes the record of a shell into its document. -/
def keepDocument (files : Files m) (shell : Shell) (document : Option String) : m Unit := do
  match document, shell.session.host.store.medium with
  | some path, .document content =>
    let _ ← files.write path (content.getD "")
  | _, _ => return

/-- Runs the tutor on a whole input that is entered at one moment. -/
def run (files : Files m) (env : Environment) (now : Int64) (args : List String)
    (input : String) : m Exit := do
  match ← start files env args with
  | .exit e => return e
  | .shell shell greeting document =>
    let (shell, output) := shell.feedAll Builtin.activities (Shell.entries now input)
    let (shell, rest) := shell.finish
    keepDocument files shell document
    return success (greeting ++ output ++ rest)

end CommandLine

end GitTutor
