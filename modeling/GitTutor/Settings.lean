import GitTutor.Data.Toml.Reader
import GitTutor.Repository.Commit
import GitTutor.Text.Blank
import GitTutor.Text.Search

/-!
Settings, and how they combine with the command line and the environment.

What the command line gives comes first, then the environment, then the settings, then a default.
-/

namespace GitTutor

structure Settings where
  authorName : Option String
  authorEmail : Option String
  stateDir : Option String
  defaultActivity : Option String
  logFilter : Option String
  deriving DecidableEq

namespace Settings

open Value (optional? nullable? text?)

def empty : Settings := ⟨none, none, none, none, none⟩

/-- Reads settings from a text. Every key may be missing. -/
def ofText? (text : String) : Option Settings := do
  let ms ← (← Toml.ofText? text).members? .ignored
    ["author-name", "author-email", "state-dir", "default-activity", "log-filter"]
  let key := fun name => optional? ms name none (nullable? text?)
  return {
    authorName := ← key "author-name"
    authorEmail := ← key "author-email"
    stateDir := ← key "state-dir"
    defaultActivity := ← key "default-activity"
    logFilter := ← key "log-filter" }

/-- The first text that is not empty, or a default. -/
def nonempty (text : Option String) (default : String) : String :=
  match text with
  | some s => if s.isEmpty then default else s
  | none => default

/-- Reads `Name <email>`, or a name alone. -/
def signature (text : List Char) (email : String) : Signature :=
  let text := Text.trim text
  let alone : Signature := ⟨String.ofList text, email⟩
  match Text.cut ['<'] text with
  | none => alone
  | some (name, rest) =>
    let name := Text.trim name
    if rest.getLast? = some '>' ∧ name ≠ [] then
      ⟨String.ofList name, String.ofList (Text.trim rest.dropLast)⟩
    else alone

/-- Who makes the commits. A blank author from outside counts as none at all. -/
def author (s : Settings) (given environment : Option String) : Signature :=
  let email := nonempty s.authorEmail "user@example.com"
  let configured : Signature := ⟨nonempty s.authorName "Git Trainer User", email⟩
  match given.or environment with
  | none => configured
  | some text =>
    if Text.AllBlank text.toList then configured else signature text.toList email

/-- The id of the activity to start in. -/
def activity (s : Settings) (given environment : Option String) : String :=
  nonempty ((given.or environment).or s.defaultActivity) "act-1"

/-- The directory of the tutor in a home directory. -/
def directory (home : String) : String := home ++ "/.git-trainer"

/-- The file of the settings in a home directory. -/
def path (home : String) : String := directory home ++ "/config.toml"

/-- The directory where the host keeps its record. -/
def stateDirectory (s : Settings) (given home : Option String) : Option String :=
  (given.or s.stateDir).or (home.map directory)

end Settings

end GitTutor
