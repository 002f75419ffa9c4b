import GitTutor.Host.Basic
import GitTutor.Lesson.Activity
import GitTutor.Merge.Text
import GitTutor.Repository.Status
import GitTutor.Text.Lowercase

/-!
Judging missions.

A check looks at the workspace and at the record of the host and changes neither. Its verdict is
the list of what is still lacking; the mission is done when the list is empty.
-/

namespace GitTutor

open Text

/-- Whether a text holds a phrase, where case does not count. -/
def mentions (text phrase : List Char) : Bool := contains (lower phrase) (lower text)

/-- What stands inside the first complete heading of a page. -/
def headingText? (page : List Char) : Option (List Char) := do
  let (_, rest) ← cutAnyCase "<h1".toList page
  let (_, rest) ← cut ['>'] rest
  let (heading, _) ← cutAnyCase "</h1>".toList rest
  return heading

namespace Workspace

/-- The message of the newest commit of the current history. -/
def lastMessage? (w : Workspace) : Option String :=
  match w.log "HEAD" with
  | .ok (c :: _) => some c.message
  | _ => none

def commitCount (w : Workspace) : Nat :=
  match w.log "HEAD" with
  | .ok log => log.length
  | .error _ => 0

/-- The visible files that hold a whole conflict region. -/
def markedFiles (w : Workspace) : List String :=
  w.visible.filter fun file =>
    match w.read file with
    | some content => Merge.hasMarks content
    | none => false

end Workspace

namespace Check

def noCommits : String := "You haven't made any commits yet."

def noRemote : String :=
  "You haven't created a simulated remote yet. Use: github create <name>"

/-- `[text]` where a condition holds. -/
def lacks (condition : Bool) (text : String) : List String := if condition then [text] else []

theorem mem_lacks_iff {condition : Bool} {text complaint : String} :
    complaint ∈ lacks condition text ↔ condition = true ∧ complaint = text := by
  cases condition <;> simp [lacks]

theorem lacks_eq_nil_iff {condition : Bool} {text : String} :
    lacks condition text = [] ↔ condition = false := by
  cases condition <;> simp [lacks]

/-- What the latest commit message lacks. -/
def lastMessageLacks (w : Workspace) (phrase complaint : String) : List String :=
  match w.lastMessage? with
  | none => [noCommits]
  | some message => lacks (!mentions message.toList phrase.toList) complaint

def firstCommitLacks (w : Workspace) (file phrase : String) : List String :=
  lacks (file ∉ w.visible) s!"You haven't created \"{file}\" in the repository yet." ++
    lastMessageLacks w phrase s!"The last commit message must contain the phrase \"{phrase}\"."

def remotePushedLacks : Option Record → List String
  | none => [noRemote]
  | some record =>
    lacks record.commits.isEmpty "You haven't pushed to the remote yet. Try: git push origin main"

def remoteHistoryLacks (w : Workspace) (record : Option Record) (minimum : Nat) : List String :=
  let pushed :=
    match record with
    | none => 0
    | some record => record.commits.length
  lacks (w.commitCount < minimum)
      s!"You need at least {minimum} commits in the local repository." ++
    lacks (pushed < minimum)
      (s!"The simulated remote doesn't have {minimum} commits yet. " ++
        "Push again after your latest commit: git push origin main")

def branchPushedLacks (w : Workspace) (record : Option Record) (branch : String) : List String :=
  let exist :=
    match w.branches with
    | .ok names => names.contains branch
    | .error _ => false
  let hasCommits :=
    match w.log branch with
    | .ok log => !log.isEmpty
    | .error _ => false
  lacks (!exist) s!"You haven't created the branch \"{branch}\". Use: git branch {branch}" ++
    lacks (!hasCommits)
      (s!"The branch \"{branch}\" has no commits. Switch to it " ++
        s!"(git checkout {branch}) and commit at least once.") ++
    match record with
    | none => [noRemote]
    | some record =>
      lacks (record.lastPushed ≠ some branch)
        s!"You haven't pushed \"{branch}\". Try: git push origin {branch}"

def headingMentionsLacks (w : Workspace) (file word : String) : List String :=
  match w.read file with
  | none => [s!"\"{file}\" was not found in /repo."]
  | some content =>
    let page := trim content.toList
    lacks page.isEmpty s!"\"{file}\" is empty. Write some content in it." ++
      match headingText? page with
      | none => [s!"No <h1> heading found in {file}. Add an <h1> with a main title."]
      | some heading =>
        lacks (!mentions heading word.toList)
          s!"The text inside <h1> should mention the word \"{word}\"."

def branchesConvergedLacks (w : Workspace) (target source : String) : List String :=
  let noTarget :=
    s!"The branch \"{target}\" was not found. Make sure it exists and has a commit."
  let noSource :=
    s!"The branch \"{source}\" was not found. Create it with: git branch {source}"
  match w.resolve target, w.resolve source with
  | .ok t, .ok s =>
    lacks (t ≠ s)
      (s!"\"{target}\" doesn't contain the changes from \"{source}\" yet. " ++
        s!"From {target}, run: git merge {source}")
  | .ok _, .error _ => [noSource]
  | .error _, .ok _ => [noTarget]
  | .error _, .error _ => [noTarget, noSource]

def conflictProducedLacks (w : Workspace) : List String :=
  let conflicted :=
    match w.status with
    | .ok entries => entries.any fun e => e.2 = .conflicted
    | .error _ => false
  lacks (!conflicted)
    ("No conflicted files detected. Change the same line on two " ++
      "different branches and merge them.")

def conflictResolvedLacks (w : Workspace) (phrase : String) : List String :=
  lacks (!w.markedFiles.isEmpty)
      ("Conflict markers (<<<<<<< ======= >>>>>>>) are still present. " ++
        "Resolve them and commit.") ++
    lastMessageLacks w phrase
      ("After resolving, run git add <file> and then a commit whose " ++
        s!"message mentions \"{phrase}\".")

def requestOpenedLacks (w : Workspace) (record : Option Record) (target : String) : List String :=
  match record with
  | none => [noRemote]
  | some record =>
    let branches :=
      match w.branches with
      | .ok names => names
      | .error _ => []
    let opened := record.requests.any fun r =>
      r.target = target && r.source ≠ target && branches.contains r.source
    lacks (!opened)
      (s!"Open a pull request from one of your branches into \"{target}\": " ++
        s!"github pr create <branch> {target}")

def pagesPublishedLacks (w : Workspace) (record : Option Record) (file : String) : List String :=
  match record with
  | none => [noRemote]
  | some record =>
    lacks record.commits.isEmpty "Push your site first: git push origin main" ++
      lacks (!record.published) "The site isn't published yet. Run: git pages publish" ++
      lacks (!w.fileExists file) s!"The site needs a \"{file}\" page."

/-- What a check still lacks. -/
def lacking (check : Check) (w : Workspace) (host : Host) : List String :=
  match host.record? with
  | .error e => ["Could not read the remote: " ++ e.message]
  | .ok record =>
    match check with
    | firstCommit file phrase => firstCommitLacks w file phrase
    | remotePushed => remotePushedLacks record
    | remoteHistory minimum => remoteHistoryLacks w record minimum
    | branchPushed branch => branchPushedLacks w record branch
    | headingMentions file word => headingMentionsLacks w file word
    | branchesConverged target source => branchesConvergedLacks w target source
    | conflictProduced => conflictProducedLacks w
    | conflictResolved phrase => conflictResolvedLacks w phrase
    | requestOpened target => requestOpenedLacks w record target
    | pagesPublished file => pagesPublishedLacks w record file

end Check

end GitTutor
