import GitTutor.Lesson.Catalog
import GitTutor.Report
import GitTutor.Session.Basic
import GitTutor.Text.Lines

/-!
The interactive shell: a session that is fed with lines.

A line that starts with a colon drives the shell itself, any other goes to the session. While a
file is being written, lines belong to the file up to a lone dot. Each line has its end with it;
what the shell writes in answer ends with the next prompt, if it waits for a command.
-/

namespace GitTutor

/-- What the shell takes the next line for. -/
inductive Shell.Mode where
  | command
  /-- A line of a file, after those in `content`. -/
  | file (path : String) (content : List Char)
  | closed
  deriving DecidableEq

structure Shell where
  session : Session
  mode : Shell.Mode
  deriving DecidableEq

namespace Shell

def commandsHelp : String :=
  "Shell commands: :missions, :activity [<id>], :write <file>, :quit"

def greeting (s : Session) : String :=
  let about :=
    match s.activity with
    | none => ""
    | some a => a.title ++ "\n" ++ (if a.description.isEmpty then "" else a.description ++ "\n")
  about ++ "Type \"help\" for commands. " ++ commandsHelp ++ "\n"

def prompt (s : Session) : String :=
  match s.workspace.currentBranch with
  | .ok (some branch) => branch ++ "$ "
  | .ok none => "(detached)$ "
  | .error _ => "$ "

/-- A shell over a session, and what it writes before the first line. -/
def start (s : Session) : Shell × String := (⟨s, .command⟩, greeting s ++ prompt s)

/-- Waits for a command, after `output`. -/
def ready (s : Session) (output : String) : Shell × String :=
  (⟨s, .command⟩, output ++ prompt s)

/-- A reply as it is shown, its hint apart. -/
def shown (reply : String) : String :=
  let (text, hint) := Hint.split reply
  (if text.isEmpty then "" else text ++ "\n") ++
    match hint with
    | none => ""
    | some hint => "\n" ++ Report.hint hint ++ "\n"

def switchActivity (catalog : List Activity) (s : Session) (id : String) : Shell × String :=
  if id.isEmpty then ready s (Report.activities catalog ++ "\n")
  else
    match Catalog.find? catalog id with
    | none => ready s s!"Unknown activity: {id}\n"
    | some activity =>
      match s.select (some activity) with
      | (.ok (), s) => ready s (greeting s)
      | (.error e, s) => ready s s!"Could not reset the simulated remote: {e.message}\n"

def startFile (s : Session) (path : String) : Shell × String :=
  if path.isEmpty then ready s "Usage: :write <file>\n"
  else
    (⟨s, .file path []⟩,
      s!"Enter the content of {path}. Finish with a line containing only \".\"\n")

def saveFile (s : Session) (path : String) (content : List Char) : Shell × String :=
  let content := String.ofList content
  ready (s.write path content) s!"Saved {path} ({content.utf8ByteSize} bytes)\n"

/-- Runs a line that starts with a colon, without the colon. -/
def direct (catalog : List Activity) (s : Session) (line : List Char) : Shell × String :=
  let (name, argument) :=
    match Text.cutAtBlank line with
    | none => (line, [])
    | some (name, rest) => (name, Text.trim rest)
  let argument := String.ofList argument
  match String.ofList name with
  | "quit" | "q" => (⟨s, .closed⟩, "")
  | "missions" => ready s (Report.missions s.missions ++ "\n")
  | "activity" => switchActivity catalog s argument
  | "write" => startFile s argument
  | name => ready s s!"Unknown shell command: :{name}\n{commandsHelp}\n"

/-- A line of a file without its end, however many newlines and carriage returns that has. -/
def fileLine (line : List Char) : List Char :=
  (line.reverse.dropWhile fun c => c = '\n' || c = '\r').reverse

/-- Takes one line with its end. -/
def feed (catalog : List Activity) (now : Int64) (shell : Shell) (line : List Char) :
    Shell × String :=
  let s := shell.session
  match shell.mode with
  | .closed => (shell, "")
  | .file path content =>
    let line := fileLine line
    if line = ['.'] then saveFile s path content
    else (⟨s, .file path (content ++ line ++ ['\n'])⟩, "")
  | .command =>
    match Text.trim line with
    | ':' :: line => direct catalog s line
    | line =>
      let (reply, s) := s.answer now (String.ofList line)
      ready s (shown reply)

/-- Ends the input. A file that is being written is saved as far as it goes. -/
def finish (shell : Shell) : Shell × String :=
  match shell.mode with
  | .closed => (shell, "")
  | .command => ({ shell with mode := .closed }, "\n")
  | .file path content =>
    let (saved, output) := saveFile shell.session path content
    ({ saved with mode := .closed }, output ++ "\n")

/-- A line as it is entered, with its end. -/
structure Entry where
  now : Int64
  line : List Char
  deriving DecidableEq

/-- The lines of a script that is entered at one moment. -/
def entries (now : Int64) (script : String) : List Entry :=
  (Text.pieces script.toList).map (⟨now, ·⟩)

/-- Takes lines one after the other. -/
def feedAll (catalog : List Activity) (shell : Shell) : List Entry → Shell × String
  | [] => (shell, "")
  | entry :: input =>
    let (shell, output) := shell.feed catalog entry.now entry.line
    let (shell, rest) := shell.feedAll catalog input
    (shell, output ++ rest)

/-- Serves a whole input, and gives what the shell writes. -/
def serve (catalog : List Activity) (s : Session) (input : List Entry) : Session × String :=
  let (shell, greeting) := start s
  let (shell, output) := shell.feedAll catalog input
  let (shell, rest) := shell.finish
  (shell.session, greeting ++ output ++ rest)

/-- Runs a script at one moment. -/
def run (catalog : List Activity) (now : Int64) (s : Session) (script : String) :
    Session × String :=
  serve catalog s (entries now script)

end Shell

end GitTutor
