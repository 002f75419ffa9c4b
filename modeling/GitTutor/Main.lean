import GitTutor.CommandLine.Run
import Std.Time.DateTime.Timestamp

/-!
The command line of the tutor.
-/

namespace GitTutor.Main

/-- What the failure to read a file says about it. -/
def unreadable : IO.Error → FileText
  | .noFileOrDirectory .. => .missing
  | .inappropriateType none .. => .failed "Is a directory (os error 21)"
  | .inappropriateType .. => .failed "Not a directory (os error 20)"
  | .permissionDenied .. => .failed "Permission denied (os error 13)"
  | e => .failed (toString e)

def pathExists (path : String) : IO Bool := do
  try
    let _ ← IO.FS.readFile path
    return true
  catch e =>
    match e with
    | .noFileOrDirectory .. | .inappropriateType (some _) .. => return false
    | _ => return true

/-- The directory above the last name of a path. -/
def above (path : String) : String :=
  let names := "/".intercalate (pathNames path).dropLast
  if path.toList.head? = some '/' then "/" ++ names else "./" ++ names

/-- The files of the machine. -/
def machineFiles : Files IO where
  read path := do
    try return .text (← IO.FS.readFile path)
    catch e => return unreadable e
  pathExists := pathExists
  makeDirectories path := do
    try
      if endsInPlace path then
        IO.FS.createDirAll (above path)
        pathExists path
      else
        IO.FS.createDirAll path
        return true
    catch _ => return false
  write path content := do
    try
      IO.FS.writeFile path content
      return true
    catch _ => return false

def now : IO Int64 := do
  let moment ← Std.Time.Timestamp.now
  return Int64.ofInt moment.toSecondsSinceUnixEpoch.val

def put (output : String) : IO Unit := do
  let out ← IO.getStdout
  out.putStr output
  out.flush

/-- Feeds the shell until it closes or the input ends. -/
partial def converse (input : IO.FS.Stream) (shell : Shell) (document : Option String) :
    IO Unit := do
  if shell.mode = .closed then return
  let line ← input.getLine
  let (shell, output) ←
    if line.isEmpty then pure shell.finish
    else pure (shell.feed Builtin.activities (← now) line.toList)
  CommandLine.keepDocument machineFiles shell document
  put output
  converse input shell document

end GitTutor.Main

open GitTutor in
def main (args : List String) : IO UInt32 := do
  let env : Environment :=
    { home := ← IO.getEnv "HOME"
      author := ← IO.getEnv "GIT_TRAINER_AUTHOR"
      activity := ← IO.getEnv "GIT_TRAINER_ACTIVITY" }
  match ← CommandLine.start Main.machineFiles env args with
  | .exit e =>
    Main.put e.output
    unless e.errors.isEmpty do IO.eprintln e.errors
    return UInt32.ofNat e.code
  | .shell shell greeting document =>
    CommandLine.keepDocument Main.machineFiles shell document
    Main.put greeting
    Main.converse (← IO.getStdin) shell document
    return 0
