import GitTutor.Command.Basic

/-!
The hint of each family of commands. Commands outside `git` and `github` have none.
-/

namespace GitTutor

structure FamilyHint where
  key : String
  lines : List String

namespace FamilyHint

def init : FamilyHint where
  key := "init"
  lines := [
    "Tip: Git now tracks this folder inside the hidden .git directory.",
    "Create a file (touch index.html) and check \"git status\"."]

def status : FamilyHint where
  key := "status"
  lines := [
    "Tip: \"untracked\" files are new to Git.",
    "Stage one with: git add <file>"]

def add : FamilyHint where
  key := "add"
  lines := [
    "Tip: the file is now staged, ready for the next snapshot.",
    "Save it with: git commit -m \"describe your change\""]

def commit : FamilyHint where
  key := "commit"
  lines := [
    "Tip: a commit is a permanent snapshot with a message.",
    "Review your history with: git log"]

def log : FamilyHint where
  key := "log"
  lines := [
    "Tip: newest commits come first.",
    "The long hex string after \"commit\" is the commit id."]

def branch : FamilyHint where
  key := "branch"
  lines := [
    "Tip: a branch is a movable label pointing at a commit.",
    "Switch to it with: git checkout <branch>"]

def checkout : FamilyHint where
  key := "checkout"
  lines := [
    "Tip: checkout rewrites your files to match the branch or commit.",
    "Check where you are with: git status"]

def merge : FamilyHint where
  key := "merge"
  lines := [
    "Tip: merging brings another branch's commits into the current one.",
    "Look at the result with: git log"]

def conflicts : FamilyHint where
  key := "conflicts"
  lines := [
    "Tip: keep the right version between the <<<<<<<, ======= and >>>>>>> markers,",
    "delete the markers, then run git add <file> and git commit."]

def push : FamilyHint where
  key := "push"
  lines := [
    "Tip: the remote now has a copy of this branch's history.",
    "Inspect it with: github status"]

def pull : FamilyHint where
  key := "pull"
  lines := [
    "Tip: pull tells you what the remote has that you don't.",
    "Compare with your history using: git log"]

def clone : FamilyHint where
  key := "clone"
  lines := [
    "Tip: a clone starts a fresh working copy linked to the remote as origin.",
    "Check the link with: git remote -v"]

def remote : FamilyHint where
  key := "remote"
  lines := [
    "Tip: a remote is a named URL for another copy of the repository.",
    "The usual name for the main one is origin."]

def pages : FamilyHint where
  key := "pages"
  lines := [
    "Tip: pages serves the files from your last push as a website.",
    "Push again and run \"git pages republish\" to update it."]

def hostCreate : FamilyHint where
  key := "github-create"
  lines := [
    "Tip: this repository lives on the simulated host, not in /repo.",
    "Send your commits there with: git push origin main"]

def hostStatus : FamilyHint where
  key := "github-status"
  lines := ["Tip: compare the remote commits with \"git log\" to see what is missing."]

def request : FamilyHint where
  key := "pr"
  lines := [
    "Tip: a pull request asks to merge one branch into another.",
    "List them with \"github pr list\" and merge with \"github pr merge <id>\"."]

end FamilyHint

def Command.hint? : Command → Option FamilyHint
  | help | ls | cat _ | touch _ | pwd => none
  | init => some .init
  | status => some .status
  | add _ | addAll => some .add
  | commit _ => some .commit
  | log _ => some .log
  | branches | branch _ => some .branch
  | checkout _ | checkoutNew _ | checkoutCommit _ => some .checkout
  | merge _ => some .merge
  | conflicts => some .conflicts
  | push _ _ => some .push
  | pull _ _ => some .pull
  | clone _ => some .clone
  | remotes _ | remoteAdd _ _ | remoteRemove _ => some .remote
  | publish | republish => some .pages
  | hostCreate _ => some .hostCreate
  | hostStatus => some .hostStatus
  | requestCreate _ _ _ | requests | requestMerge _ => some .request

end GitTutor
