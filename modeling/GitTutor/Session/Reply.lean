import GitTutor.Calendar
import GitTutor.Host.Basic
import GitTutor.Repository.Merge

/-!
What the learner is told when a command succeeds.
-/

namespace GitTutor.Reply

def unlines (ls : List String) : String := "\n".intercalate ls

/-- The branch of `git init`, and the one that is meant where nothing else is known. -/
def defaultBranch : String := "main"

def help : String := unlines [
  "Available commands:",
  "  help                          Show this help",
  "  ls                            List files in /repo",
  "  cat <file>                    Print a file",
  "  touch <file>                  Create an empty file",
  "  pwd                           Print the current directory",
  "",
  "Local Git:",
  "  git init                      Start a repository",
  "  git status                    Show changed files",
  "  git add <file>                Stage one file (git add . is not supported)",
  "  git commit -m \"message\"       Record a commit",
  "  git log [<ref>]               Show history",
  "  git branch [<name>]           List or create branches",
  "  git checkout [-b] <name>      Switch branch (or create and switch)",
  "  git checkout <commit>         Look at an old commit",
  "  git merge <branch>            Merge a branch into the current one",
  "  git conflicts                 List files with conflict markers",
  "  git remote [-v]               List remotes",
  "  git remote add <name> <url>   Register a remote",
  "  git remote remove <name>      Forget a remote",
  "  git clone <url>               Start over from the simulated remote",
  "  git push [origin] [<branch>]  Send a branch to the simulated remote",
  "  git pull [origin] [<branch>]  See what the remote has",
  "  git pages publish|republish   Publish the pushed site",
  "",
  "Simulated GitHub:",
  "  github create <name>          Create the remote repository",
  "  github status                 Show the remote repository",
  "  github pr create <from> [<to>] [-t \"title\"]",
  "  github pr list",
  "  github pr merge <id>"]

def init (existed : Bool) : String :=
  if existed then "Reinitialized existing Git repository in /repo/.git"
  else "Initialized empty Git repository in /repo/.git"

def statusLabel : FileStatus → String
  | .untracked => "untracked"
  | .stagedNew => "new file (staged)"
  | .stagedModified => "modified (staged)"
  | .modified => "modified"
  | .deleted => "deleted"
  | .conflicted => "both modified (conflict)"

/-- A label in a column of 24 characters, and the path after it. -/
def statusLine (entry : String × FileStatus) : String :=
  let label := statusLabel entry.2
  "  " ++ label ++ String.ofList (List.replicate (24 - label.length) ' ') ++ entry.1

def status (branch : String) (entries : List (String × FileStatus)) : String :=
  if entries.isEmpty then s!"On branch {branch}\nNothing to commit, working tree clean."
  else
    unlines (("On branch " ++ branch) :: "Changes in the repository:" :: entries.map statusLine)

def commit (id : CommitId) (message : String) : String :=
  s!"Commit created: {id.short} - \"{message}\""

def logEntry (c : Commit) : String :=
  let parents :=
    if c.parents.length > 1 then
      ["Merge: " ++ " ".intercalate (c.parents.map CommitId.short)]
    else []
  unlines (("commit " ++ c.id.hex) :: parents ++
    ["Author: " ++ c.author.text, "Date:   " ++ Calendar.render c.seconds.toInt, "",
      "    " ++ c.message, ""])

def log (commits : List Commit) : String := unlines (commits.map logEntry)

def branches (current : Option String) (names : List String) : String :=
  if names.isEmpty then "No branches yet. The first commit creates main."
  else unlines (names.map fun n => (if current = some n then "* " else "  ") ++ n)

def detached (at_ : String) : String :=
  s!"HEAD is now detached at {at_}.\n" ++
    "You are looking at an old snapshot. Go back with: git checkout main"

def merge (ours theirs : String) : MergeResult → String
  | .fastForward id =>
    "Fast-forward merge completed.\n" ++
      s!"Branch {ours} now points to the same commit as {theirs} ({id.short})."
  | .merged id =>
    s!"Merge completed: \"{theirs}\" was merged into \"{ours}\".\n" ++
      s!"New merge commit: {id.short}"
  | .upToDate => s!"Already up to date with {theirs}."

def push (branch : String) (record : Record) : String :=
  s!"Pushed to {record.url}\nBranch: {branch}\nCommits sent: {record.commits.length}"

def pull (report : PullReport) : String :=
  if report.missing = 0 then
    s!"From {report.url}\nAlready up to date with origin/{report.branch}."
  else
    s!"From {report.url}\nBranch: {report.branch}\n" ++
      s!"The remote has {report.missing} commit(s) that are not in your history."

def clone (record : Record) : String :=
  s!"Cloned {record.url} into /repo.\nThe remote is registered as origin."

def remotes (verbose : Bool) (remotes : List (String × String)) : String :=
  if remotes.isEmpty then "No remotes configured.\nAdd one with: git remote add origin <url>"
  else if verbose then
    unlines (remotes.flatMap fun r =>
      [r.1 ++ "\t" ++ r.2 ++ " (fetch)", r.1 ++ "\t" ++ r.2 ++ " (push)"])
  else unlines (remotes.map (·.1))

def published (again : Bool) (report : PagesReport) : String :=
  if again then "Site republished at " ++ report.url
  else if report.wasPublished then "Site already published; updated at " ++ report.url
  else "Site published at " ++ report.url

def hostCreated (record : Record) : String := unlines [
  "Simulated remote repository created: " ++ record.name,
  "URL: " ++ record.url,
  "",
  "Now simulate a push with:",
  "  git push origin main"]

def hostStatus (summary : Option String) : String :=
  summary.getD "There is no simulated remote repository.\nUse: github create <repository-name>"

def requestOpened (r : PullRequest) : String :=
  s!"Pull request #{r.id.toNat} opened: {r.title}\n{r.source} -> {r.target}"

def requests (rs : List PullRequest) : String :=
  if rs.isEmpty then "No pull requests yet."
  else
    unlines (rs.map fun r =>
      s!"#{r.id.toNat} [{r.status.text}] {r.title} ({r.source} -> {r.target})")

def requestMerged (r : PullRequest) : String :=
  s!"Pull request #{r.id.toNat} merged: {r.title}\n" ++
    "Local branches are unchanged. To bring the work in locally run:\n" ++
    s!"  git checkout {r.target}\n  git merge {r.source}"

end GitTutor.Reply
