import GitTutor.Command.Reader
import GitTutor.Host.Basic

/-!
Why a command fails, and what the learner is told about it.
-/

namespace GitTutor

/-- What was asked of the repository when it refused. -/
inductive Attempt where
  | start
  | readStatus
  | stage (file : String)
  | commit
  | readHistory
  | listBranches
  | createBranch (name : String)
  | switch (reference : String)
  | merge
  | listRemotes
  | addRemote (name : String)
  | removeRemote (name : String)
  deriving DecidableEq

inductive CommandError where
  | unreadable (error : ReadError)
  /-- To stage everything at once is refused; the visible files are listed. -/
  | stageAll (files : List String)
  | blocked (key activity : String)
  | notInitialized
  | repository (attempt : Attempt) (error : RepoError)
  | host (error : HostError)
  deriving DecidableEq

def bullets (items : List String) : String := "\n".intercalate (items.map ("  - " ++ ·))

/-! ### Refusals of the repository -/

def conflictAdvice (ours theirs : String) (paths : List String) : String :=
  "\n".intercalate [
    s!"Merge conflict between {ours} and {theirs}.",
    "",
    "Conflicting files:",
    bullets paths,
    "",
    "They are marked with:",
    "  <<<<<<< HEAD",
    "  =======",
    "  >>>>>>> " ++ theirs,
    "",
    "To resolve:",
    "  1. Edit each file and keep only the right version.",
    "  2. Stage it: git add <file>",
    "  3. Commit: git commit -m \"Resolve merge conflict\""]

/-- What is said about switching and merging alike. -/
def switchAdvice : RepoError → String
  | .localChanges paths =>
    "Your local changes to these files would be overwritten:\n" ++ bullets paths ++
      "\nCommit them first."
  | .untrackedOverwritten paths =>
    "These untracked files would be overwritten:\n" ++ bullets paths ++
      "\nAdd and commit them, or rename them first."
  | .unresolvedConflicts paths =>
    "Resolve the conflicts first:\n" ++ bullets paths ++ "\nThen run git add <file> and git commit."
  | e => e.message

def Attempt.advice : Attempt → RepoError → String
  | start, _ => "Could not initialize the repository."
  | readStatus, _ => "Could not read the repository status."
  | stage file, .fileNotFound _ =>
    s!"pathspec '{file}' did not match any files.\nCheck the name with \"ls\"."
  | stage file, e => s!"Could not stage {file}: " ++ e.message
  | commit, .nothingToCommit => "Nothing to commit.\nStage a change first with: git add <file>"
  | commit, .unresolvedConflicts paths =>
    "These files still have unresolved conflicts:\n" ++ bullets paths ++
      "\nFix them, then run git add <file> before committing."
  | commit, e => "Could not create the commit: " ++ e.message
  | readHistory, .unbornBranch branch =>
    s!"No commits yet on branch {branch}.\nCreate one with: git commit -m \"message\""
  | readHistory, .unknownRef name =>
    s!"Unknown branch or commit: {name}\nList branches with: git branch"
  | readHistory, e => "Could not read the history: " ++ e.message
  | listBranches, _ => "Could not list branches."
  | createBranch name, .branchExists _ =>
    s!"A branch named '{name}' already exists.\nSwitch to it with: git checkout {name}"
  | createBranch name, .invalidBranchName _ => s!"'{name}' is not a valid branch name."
  | createBranch _, .unbornBranch _ => "Make a first commit before creating branches."
  | createBranch name, e => s!"Could not create branch '{name}': " ++ e.message
  | switch reference, .unknownRef _ | switch reference, .unbornBranch _ =>
    s!"'{reference}' is not a branch or commit you can switch to.\n" ++
      s!"Create a branch with: git branch {reference}"
  | switch _, e => switchAdvice e
  | merge, .mergeConflict ours theirs paths => conflictAdvice ours theirs paths
  | merge, .unknownRef name => s!"Branch '{name}' does not exist.\nList branches with: git branch"
  | merge, .unbornBranch branch => s!"Branch {branch} has no commits yet; commit before merging."
  | merge, e => switchAdvice e
  | listRemotes, _ => "Could not list remotes."
  | addRemote name, .remoteExists _ =>
    s!"Remote '{name}' already exists.\nSee it with: git remote -v"
  | addRemote name, e => s!"Could not add remote '{name}': " ++ e.message
  | removeRemote name, .remoteNotFound _ => s!"No such remote: '{name}'"
  | removeRemote name, e => s!"Could not remove remote '{name}': " ++ e.message

/-! ### Refusals of the host -/

def HostError.advice : HostError → String
  | noRepository =>
    "There is no simulated remote repository yet.\nCreate one first with:\n" ++
      "  github create <repository-name>"
  | unsupportedRemote _ => "Only the origin remote is supported: git push origin <branch>"
  | branchUnreadable branch =>
    s!"Could not read branch '{branch}'. Have you made any commits on it?"
  | nothingPushed =>
    "The remote has no commits yet.\nPush your work first with:\n  git push origin main"
  | noMatchingRepository url =>
    s!"Repository not found: {url}\nCheck the URL with \"github status\"."
  | requestNotFound id => s!"Pull request #{id.toNat} does not exist. See \"github pr list\"."
  | e => "The simulated remote is unavailable: " ++ e.message

/-! ### All refusals -/

def stageAllAdvice (files : List String) : String :=
  let listed := if files.isEmpty then [] else ["", "Files in /repo:", bullets files]
  "\n".intercalate ([
    "This trainer does not use \"git add .\".",
    "",
    "Stage files one at a time instead, for example:",
    "    git add index.html"] ++ listed)

def CommandError.message : CommandError → String
  | unreadable e => e.message
  | stageAll files => stageAllAdvice files
  | blocked key activity =>
    s!"\"{key}\" is not available in {activity}.\n" ++
      "Finish this activity's missions or pick another activity to use it."
  | notInitialized =>
    "This folder is not a Git repository yet.\nRun \"git init\" first to start tracking it."
  | repository attempt e => attempt.advice e
  | host e => e.advice

end GitTutor
