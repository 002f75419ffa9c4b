/-!
Arguments of the command line.

Options stand before or after the subcommand. A value follows its option as the next argument or
after an equals sign; an argument that starts with a dash is no value, a lone dash apart. An
option may be given once before and once after the subcommand, and then the later one counts.
-/

namespace GitTutor

structure Options where
  stateDir : Option String
  author : Option String
  activity : Option String
  memory : Bool
  deriving DecidableEq

def Options.empty : Options := ⟨none, none, none, false⟩

inductive Subcommand where
  | activities
  | shell
  | remote
  deriving DecidableEq

inductive Arguments where
  | help
  | run (subcommand : Subcommand) (options : Options)
  deriving DecidableEq

namespace Arguments

def subcommand? : String → Option Subcommand
  | "activities" => some .activities
  | "shell" => some .shell
  | "remote" => some .remote
  | _ => none

/-- Gives a value to an option that has none yet. `shell` admits the options of the shell. -/
def setOption (shell : Bool) (name value : String) (o : Options) : Option Options :=
  match name with
  | "--state-dir" =>
    if o.stateDir.isSome || value.isEmpty then none else some { o with stateDir := some value }
  | "--author" => if o.author.isSome then none else some { o with author := some value }
  | "--activity" =>
    if o.activity.isSome || !shell then none else some { o with activity := some value }
  | _ => none

def isHelp (a : String) : Bool := a = "-h" || a = "--help"

def isOption (a : String) : Bool := "-".toList.isPrefixOf a.toList && a ≠ "-"

/-- Splits an argument at its first equals sign. -/
def splitValue? (a : String) : Option (String × String) :=
  let cs := a.toList
  let name := cs.takeWhile (· ≠ '=')
  if name.length < cs.length then
    some (String.ofList name, String.ofList (cs.drop (name.length + 1)))
  else none

/-- What a row of options leads to. -/
inductive Row where
  | help
  | options (o : Options)
  /-- The options before an argument that is no option, and that argument with all after it. -/
  | word (o : Options) (word : String) (rest : List String)

/-- Reads options up to the first argument that is none; `none` if one is unknown, repeated or
lacks its value. -/
def row (shell : Bool) : Options → List String → Option Row
  | o, [] => some (.options o)
  | o, a :: rest =>
    if isHelp a then some .help
    else if a = "--" then if rest.isEmpty then some (.options o) else none
    else if a = "--memory" then
      if o.memory || !shell then none else row shell { o with memory := true } rest
    else if isOption a then
      match splitValue? a with
      | some (name, value) => (setOption shell name value o).bind fun o => row shell o rest
      | none =>
        match rest with
        | [] => none
        | value :: rest =>
          if isOption value then none
          else (setOption shell a value o).bind fun o => row shell o rest
    else some (.word o a rest)

/-- Whether help can be given on what follows the word `help`: on the tutor or on one subcommand. -/
def isTopic : List String → Bool
  | [] => true
  | [name] => (subcommand? name).isSome || name = "help"
  | _ => false

/-- Reads all arguments; `none` is an error of usage. -/
def ofList? (args : List String) : Option Arguments :=
  match row false .empty args with
  | some .help => some .help
  | some (.word before word rest) =>
    if word = "help" then if isTopic rest then some .help else none
    else
      (subcommand? word).bind fun subcommand =>
        match row (subcommand = .shell) .empty rest with
        | some .help => some .help
        | some (.options after) =>
          some (.run subcommand
            { after with
              stateDir := after.stateDir.or before.stateDir
              author := after.author.or before.author })
        | _ => none
  | _ => none

end Arguments

end GitTutor
