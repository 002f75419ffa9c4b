import GitTutor.Command.Basic
import GitTutor.Command.Token
import GitTutor.Command.Suggestion
import GitTutor.Text.Hex

/-!
Reading a command from a line.

A line of blanks is no command. The first words choose the command, the tokens after them are its
arguments, and tokens that a command does not need are passed over.
-/

namespace GitTutor

/-- Commands whose arguments are missing or unfit. -/
inductive Usage where
  | cat
  | touch
  | git
  | add
  | commit
  | checkout
  | checkoutNew
  | merge
  | clone
  | pages
  | remoteAdd
  | remoteRemove
  | host
  | hostCreate
  | requests
  | requestCreate
  | requestMerge
  deriving DecidableEq

def Usage.message : Usage → String
  | cat => "Usage: cat <file>"
  | touch => "Usage: touch <file>"
  | git => "Usage: git <command>\nType \"help\" to see the available commands."
  | add => "Usage: git add <file>"
  | commit =>
    "Usage: git commit -m \"message\"\nEvery commit needs a message describing the change."
  | checkout => "Usage: git checkout <branch|commit>"
  | checkoutNew => "Usage: git checkout -b <new-branch>"
  | merge => "Usage: git merge <branch>"
  | clone => "Usage: git clone <url>"
  | pages => "Usage: git pages publish|republish"
  | remoteAdd => "Usage: git remote add <name> <url>"
  | remoteRemove => "Usage: git remote remove <name>"
  | host => "Usage: github <command>\nExamples: github create my-site, github status"
  | hostCreate => "Usage: github create <repository-name>"
  | requests => "Usage: github pr create|list|merge"
  | requestCreate => "Usage: github pr create <from-branch> [<to-branch>] [-t \"title\"]"
  | requestMerge =>
    "Usage: github pr merge <id>\nThe id is the number shown by \"github pr list\"."

/-- Why a line is not a command. -/
inductive ReadError where
  | usage (command : Usage)
  | unknown (input : String) (suggestion : Option String)
  deriving DecidableEq

def ReadError.message : ReadError → String
  | usage command => command.message
  | unknown input (some suggestion) =>
    "Unknown command: \"" ++ input ++ "\".\nDid you mean \"" ++ suggestion ++ "\"?"
  | unknown input none =>
    "Unrecognized command: " ++ input ++ "\nType \"help\" to see the available commands."

namespace Command

/-- Seven to forty hexadecimal digits name a commit; anything else names a branch. -/
def isCommitId (reference : String) : Bool :=
  let cs := reference.toList
  7 ≤ cs.length && cs.length ≤ 40 && cs.all Text.isHexDigit

def unknown (tokens : List String) (scope : String) : ReadError :=
  .unknown (" ".intercalate tokens) (Suggestion.closest? tokens scope)

/-- The argument at a position. -/
def argument (args : List String) (i : Nat) (command : Usage) : Except ReadError String :=
  match args[i]? with
  | some a => .ok a
  | none => .error (.usage command)

/-- Everything after the first `-m`, joined by single blanks. -/
def message (args : List String) : Except ReadError String :=
  match args.dropWhile (· ≠ "-m") with
  | [] => .error (.usage .commit)
  | _ :: rest =>
    let text := " ".intercalate rest
    if Text.AllBlank text.toList then .error (.usage .commit) else .ok text

/-- Separates titles from other arguments. The last title counts; `none` when one is missing. -/
def titled : List String → Option (List String × Option String)
  | [] => some ([], none)
  | a :: rest =>
    if a = "-t" ∨ a = "--title" then
      match rest with
      | [] => none
      | title :: rest => (titled rest).map fun p => (p.1, p.2.or (some title))
    else (titled rest).map fun p => (a :: p.1, p.2)

def request (args : List String) : Except ReadError Command :=
  match titled args with
  | some (source :: rest, title) => .ok (.requestCreate source rest.head? title)
  | _ => .error (.usage .requestCreate)

/-- A positive number of 64 bits, after any number of hashes and perhaps a plus. -/
def requestId? (s : String) : Option UInt64 :=
  let digits :=
    match s.toList.dropWhile (· = '#') with
    | '+' :: digits => digits
    | digits => digits
  let n := Nat.ofDigitChars 10 digits 0
  if digits ≠ [] ∧ digits.all Char.isDigit ∧ 0 < n ∧ n < UInt64.size then some (UInt64.ofNat n)
  else none

def ofRemoteTokens (tokens args : List String) : Except ReadError Command :=
  match args with
  | [] => .ok (.remotes false)
  | "-v" :: _ => .ok (.remotes true)
  | "add" :: rest => do
    return .remoteAdd (← argument rest 0 .remoteAdd) (← argument rest 1 .remoteAdd)
  | "remove" :: rest | "rm" :: rest => do return .remoteRemove (← argument rest 0 .remoteRemove)
  | _ => .error (unknown tokens "git remote")

/-- Reads the tokens after `git`. -/
def ofGitTokens (tokens : List String) : List String → Except ReadError Command
  | [] => .error (.usage .git)
  | "init" :: _ => .ok .init
  | "status" :: _ => .ok .status
  | "add" :: args =>
    match args with
    | [] => .error (.usage .add)
    | file :: _ => .ok (if file = "." then .addAll else .add file)
  | "commit" :: args => do return .commit (← message args)
  | "log" :: args => .ok (.log args.head?)
  | "branch" :: args =>
    match args with
    | [] => .ok .branches
    | name :: _ => .ok (.branch name)
  | "checkout" :: args =>
    match args with
    | [] => .error (.usage .checkout)
    | "-b" :: rest => do return .checkoutNew (← argument rest 0 .checkoutNew)
    | reference :: _ =>
      .ok (if isCommitId reference then .checkoutCommit reference else .checkout reference)
  | "merge" :: args => do return .merge (← argument args 0 .merge)
  | "conflicts" :: _ => .ok .conflicts
  | "push" :: args => .ok (.push (args.head?.getD "origin") args[1]?)
  | "pull" :: args => .ok (.pull (args.head?.getD "origin") args[1]?)
  | "clone" :: args => do return .clone (← argument args 0 .clone)
  | "remote" :: args => ofRemoteTokens tokens args
  | "pages" :: args =>
    match args with
    | [] => .error (.usage .pages)
    | "publish" :: _ => .ok .publish
    | "republish" :: _ => .ok .republish
    | _ => .error (unknown tokens "git pages")
  | _ => .error (unknown tokens "git")

/-- Reads the tokens after `github`. -/
def ofHostTokens (tokens : List String) : List String → Except ReadError Command
  | [] => .error (.usage .host)
  | "create" :: args => do return .hostCreate (← argument args 0 .hostCreate)
  | "status" :: _ => .ok .hostStatus
  | "pr" :: args =>
    match args with
    | [] => .error (.usage .requests)
    | "create" :: rest => request rest
    | "list" :: _ => .ok .requests
    | "merge" :: rest =>
      match rest.head?.bind requestId? with
      | some id => .ok (.requestMerge id)
      | none => .error (.usage .requestMerge)
    | _ => .error (unknown tokens "github pr")
  | _ => .error (unknown tokens "github")

/-- Reads a row of tokens; an empty row is no command. -/
def ofTokens (tokens : List String) : Except ReadError (Option Command) :=
  match tokens with
  | [] => .ok none
  | "help" :: _ => .ok (some .help)
  | "ls" :: _ => .ok (some .ls)
  | "pwd" :: _ => .ok (some .pwd)
  | "cat" :: args => do return some (.cat (← argument args 0 .cat))
  | "touch" :: args => do return some (.touch (← argument args 0 .touch))
  | "git" :: rest => do return some (← ofGitTokens tokens rest)
  | "github" :: rest => do return some (← ofHostTokens tokens rest)
  | _ => .error (unknown tokens "")

def ofLine (line : String) : Except ReadError (Option Command) := ofTokens (Token.ofLine line)

/-- The key of a line, read off its first two tokens alone. Lines outside the three families of
commands have none. -/
def keyOfLine (line : String) : Option String :=
  match Token.ofLine line with
  | [] => none
  | "git" :: rest => rest.head?.map ("git " ++ ·)
  | "github" :: rest => rest.head?.map ("github " ++ ·)
  | word :: _ => if word ∈ ["help", "ls", "cat", "touch", "pwd"] then some word else none

end Command

end GitTutor
