import GitTutor.Lesson.Activity

/-!
The activities that come with the tutor.
-/

namespace GitTutor.Builtin

def localKeys : List String := [
  "help", "ls", "cat", "touch", "pwd",
  "git init", "git status", "git add", "git commit", "git log", "git branch", "git checkout"]

def firstCommit : Mission where
  id := "m1"
  title := "Mission 1: your first commit"
  description :=
    "Create \"index.html\", stage it with git add and make a commit whose message includes " ++
      "\"Primer commit\"."
  check := .firstCommit "index.html" "primer commit"

def firstPush : Mission where
  id := "m2"
  title := "Mission 2: push to the simulated GitHub"
  description :=
    "Create a simulated remote with \"github create <name>\" and upload your commits with " ++
      "\"git push origin main\"."
  check := .remotePushed

def longerHistory : Mission where
  id := "m3"
  title := "Mission 3: keep working and update the remote"
  description :=
    "Make at least a second local commit and push again. " ++
      "Local and remote must both hold at least 2 commits."
  check := .remoteHistory 2

def loginBranch : Mission where
  id := "m4"
  title := "Mission 4: the \"feature/login\" branch"
  description :=
    "Create \"feature/login\", switch to it, commit at least once and push it with " ++
      "\"git push origin feature/login\"."
  check := .branchPushed "feature/login"

def homePage : Mission where
  id := "m5"
  title := "Mission 5: a home page about Git"
  description :=
    "Write a simple page in \"index.html\" with an <h1> whose text mentions \"Git\", " ++
      "then version it."
  check := .headingMentions "index.html" "git"

def loginMerge : Mission where
  id := "m6"
  title := "Mission 6: merge \"feature/login\" into \"main\""
  description :=
    "From \"main\", bring in the work from \"feature/login\" with \"git merge feature/login\". " ++
      "Both branches must end on the same commit."
  check := .branchesConverged "main" "feature/login"

def conflict : Mission where
  id := "m7"
  title := "Mission 7: produce a merge conflict"
  description :=
    "Work on two branches and cause a conflict by changing the same line of the same file."
  check := .conflictProduced

def resolution : Mission where
  id := "m8"
  title := "Mission 8: resolve the merge conflict"
  description :=
    "Edit the file, remove the markers and keep the right version. " ++
      "Then git add and git commit with a message that says \"Resolve\"."
  check := .conflictResolved "resolve"

def pullRequest : Mission where
  id := "m9"
  title := "Mission 9: your first pull request"
  description :=
    "Create a feature branch, commit, push it and open a pull request with: " ++
      "github pr create <from> main"
  check := .requestOpened "main"

def site : Mission where
  id := "m10"
  title := "Mission 10: publish your site"
  description :=
    "Push a commit containing \"index.html\" and publish it with \"git pages publish\"."
  check := .pagesPublished "index.html"

def localBasics : Activity where
  id := "act-1"
  title := "Activity 1: local Git basics"
  description :=
    "Work with local Git only: initialize the repository, stage files and make commits."
  allowed := NameSet.ofList localKeys
  missions := [firstCommit]
  seeds := [⟨"README.md", "Git Trainer project\n"⟩]

def simulatedHost : Activity where
  id := "act-2"
  title := "Activity 2: Git and the simulated GitHub"
  description :=
    "Practice local Git together with the simulated GitHub: commits, pushes and branches."
  allowed :=
    NameSet.ofList (localKeys ++ ["git merge", "git push", "github create", "github status"])
  missions := [firstCommit, firstPush, longerHistory, loginBranch, loginMerge]
  seeds := [⟨"README.md", "Repository with a simulated remote\n"⟩]

def practicePage : String :=
  "<!DOCTYPE html>\n<html lang=\"en\">\n<head>\n  <meta charset=\"UTF-8\" />\n" ++
    "  <title>Activity 3</title>\n</head>\n<body>\n  <h1>Practicing Git</h1>\n" ++
    "  <p>Complete the missions from the terminal.</p>\n</body>\n</html>\n"

def webPages : Activity where
  id := "act-3"
  title := "Activity 3: Git, GitHub and HTML"
  description :=
    "Besides Git and the simulated GitHub, edit \"index.html\" and get its content validated."
  allowed :=
    NameSet.ofList (localKeys ++
      ["git merge", "git push", "git conflicts", "github create", "github status", "github pr"])
  missions := [
    { firstCommit with
      description :=
        "Stage \"index.html\" with git add and make a commit whose message includes " ++
          "\"Primer commit\"." },
    firstPush, longerHistory, loginBranch, homePage, loginMerge, conflict, resolution, pullRequest]
  seeds := [⟨"index.html", practicePage⟩, ⟨"README.md", "Activity 3 with starter HTML\n"⟩]

def sitePage : String :=
  "<!DOCTYPE html>\n<html lang=\"en\">\n<head>\n  <meta charset=\"UTF-8\" />\n" ++
    "  <title>My site</title>\n</head>\n<body>\n  <h1>My site, versioned with Git</h1>\n" ++
    "</body>\n</html>\n"

def openEnded : Activity where
  id := "act-4"
  title := "Activity 4: pull requests and pages"
  description :=
    "Every command is available. " ++
      "Publish a site from your repository and review work through pull requests."
  allowed := none
  missions := [firstPush, pullRequest, site]
  seeds := [⟨"index.html", sitePage⟩]

def activities : List Activity := [localBasics, simulatedHost, webPages, openEnded]

end GitTutor.Builtin
