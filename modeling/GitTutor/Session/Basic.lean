import GitTutor.Hint
import GitTutor.Lesson.Verdict
import GitTutor.Repository.Staging
import GitTutor.Session.Error
import GitTutor.Session.Hints
import GitTutor.Session.Reply

/-!
A learner's session: one activity, one workspace, one host and the hints already shown.

A line is read as a command, checked against the activity and performed. Performing a command
gives a reply or the cause of its failure, together with the session that it leaves. A reply
carries the hint of its family the first time that family succeeds.
-/

namespace GitTutor

structure Session where
  activity : Option Activity
  workspace : Workspace
  host : Host
  hints : HintLog
  author : Signature
  deriving DecidableEq

namespace Session

variable {α : Type}

abbrev Outcome := Except CommandError String × Session

def new (store : Store) (author : Signature) : Session where
  activity := none
  workspace := .empty
  host := .new store
  hints := .empty
  author := author

/-! ### Parts of commands -/

/-- Keeps the workspace that an attempt leaves, and puts its answer into words. -/
def attempt (s : Session) (what : Attempt) (result : Except RepoError α × Workspace)
    (reply : α → String) : Outcome :=
  match result with
  | (.ok a, workspace) => (.ok (reply a), { s with workspace })
  | (.error e, workspace) => (.error (.repository what e), { s with workspace })

/-- Puts the answer to a question about the repository into words. -/
def ask (s : Session) (what : Attempt) (result : Except RepoError α) (reply : α → String) :
    Outcome :=
  s.attempt what (result, s.workspace) reply

/-- Keeps the host that an operation leaves, and puts its answer into words. -/
def request (s : Session) (result : Except HostError α × Host) (reply : α → String) : Outcome :=
  match result with
  | (.ok a, host) => (.ok (reply a), { s with host })
  | (.error e, host) => (.error (.host e), { s with host })

/-- Puts the answer to a question about the host into words. -/
def askHost (s : Session) (result : Except HostError α) (reply : α → String) : Outcome :=
  s.request (result, s.host) reply

/-- The current branch, if the head is on one. -/
def currentBranch? (s : Session) : Option String :=
  match s.workspace.currentBranch with
  | .ok branch => branch
  | .error _ => none

/-- The branch that a push or a pull means. -/
def branchOr (s : Session) (branch : Option String) : String :=
  branch.getD (s.currentBranch?.getD Reply.defaultBranch)

def headDescription (s : Session) : String :=
  match s.workspace.currentBranch with
  | .ok (some branch) => branch
  | .ok none => "HEAD (detached)"
  | .error _ => Reply.defaultBranch

/-! ### Commands -/

def touch (s : Session) (file : String) : Outcome :=
  if s.workspace.fileExists file then (.ok ("File already exists: " ++ file), s)
  else (.ok ("File created: " ++ file), { s with workspace := s.workspace.write file "" })

def cat (s : Session) (file : String) : Outcome :=
  (.ok ((s.workspace.read file).getD s!"cat: {file}: No such file"), s)

/-- Creates a branch and then switches to it. -/
def checkoutNew (s : Session) (name : String) : Outcome :=
  match s.workspace.createBranch name with
  | (.error e, workspace) => (.error (.repository (.createBranch name) e), { s with workspace })
  | (.ok (), workspace) =>
    attempt s (.switch name) (workspace.checkout name) fun _ =>
      s!"Switched to a new branch '{name}'"

def checkoutCommit (s : Session) (id : String) : Outcome :=
  let result := s.workspace.checkout id
  let reached :=
    match result.2.resolve "HEAD" with
    | .ok id => id.short
    | .error _ => id
  s.attempt (.switch id) result fun _ => Reply.detached reached

def conflicts (s : Session) : Outcome :=
  let files := s.workspace.markedFiles
  (.ok (if files.isEmpty then "No files with conflict markers."
    else "Files with conflicts:\n" ++ bullets files), s)

def clone (s : Session) (url : String) : Outcome :=
  match s.host.cloneInto s.workspace url with
  | (.ok record, workspace) => (.ok (Reply.clone record), { s with workspace })
  | (.error e, workspace) => (.error (.host e), { s with workspace })

/-- What a command does and answers, hints apart. -/
def perform (s : Session) (now : Int64) (command : Command) : Outcome :=
  let w := s.workspace
  match command with
  | .help => (.ok Reply.help, s)
  | .ls => (.ok ("  ".intercalate w.entries), s)
  | .cat file => s.cat file
  | .touch file => s.touch file
  | .pwd => (.ok "/repo", s)
  | .init => s.attempt .start (w.init Reply.defaultBranch) fun _ => Reply.init w.isInitialized
  | .status => s.ask .readStatus w.status (Reply.status s.headDescription)
  | .add file => s.attempt (.stage file) (w.add file) fun _ => "Added to the index: " ++ file
  | .addAll => (.error (.stageAll w.visible), s)
  | .commit message =>
    s.attempt .commit (w.commit now message s.author) fun id => Reply.commit id message
  | .log reference => s.ask .readHistory (w.log (reference.getD "HEAD")) Reply.log
  | .branches => s.ask .listBranches w.branches (Reply.branches s.currentBranch?)
  | .branch name =>
    s.attempt (.createBranch name) (w.createBranch name) fun _ =>
      s!"Branch created: {name}\nSwitch to it with: git checkout {name}"
  | .checkout branch =>
    s.attempt (.switch branch) (w.checkout branch) fun _ => s!"Switched to branch '{branch}'"
  | .checkoutNew name => s.checkoutNew name
  | .checkoutCommit id => s.checkoutCommit id
  | .merge theirs =>
    s.attempt .merge (w.merge now theirs s.author) (Reply.merge s.headDescription theirs)
  | .conflicts => s.conflicts
  | .push remote branch =>
    s.request (s.host.push w remote (s.branchOr branch)) (Reply.push (s.branchOr branch))
  | .pull remote branch => s.askHost (s.host.pull w remote (s.branchOr branch)) Reply.pull
  | .clone url => s.clone url
  | .remotes verbose => s.ask .listRemotes w.remotes (Reply.remotes verbose)
  | .remoteAdd name url =>
    s.attempt (.addRemote name) (w.addRemote name url) fun _ => s!"Remote '{name}' added: {url}"
  | .remoteRemove name =>
    s.attempt (.removeRemote name) (w.removeRemote name) fun _ => s!"Remote '{name}' removed."
  | .publish => s.request s.host.publish (Reply.published false)
  | .republish => s.request s.host.publish (Reply.published true)
  | .hostCreate name => s.request (s.host.create name) Reply.hostCreated
  | .hostStatus => s.askHost s.host.status Reply.hostStatus
  | .requestCreate source target title =>
    s.request (s.host.openRequest source target title) Reply.requestOpened
  | .requests => s.askHost s.host.requests Reply.requests
  | .requestMerge id => s.request (s.host.mergeRequest id) Reply.requestMerged

/-- Adds the hint of a command's family to its reply. -/
def withHint (command : Command) : Outcome → Outcome
  | (.ok reply, s) =>
    match command.hint? with
    | none => (.ok reply, s)
    | some hint =>
      let (reply, hints) := s.hints.attach hint.key reply hint.lines
      (.ok reply, { s with hints })
  | (.error e, s) => (.error e, s)

def execute (s : Session) (now : Int64) (command : Command) : Outcome :=
  if command.needsRepository && !s.workspace.isInitialized then (.error .notInitialized, s)
  else withHint command (s.perform now command)

/-! ### Lines -/

/-- Runs a line. A line whose key the activity does not allow is not performed. -/
def run (s : Session) (now : Int64) (line : String) : Outcome :=
  match Command.ofLine line with
  | .error e => (.error (.unreadable e), s)
  | .ok none => (.ok "", s)
  | .ok (some command) =>
    match Command.keyOfLine line with
    | none => s.execute now command
    | some key =>
      if Activity.allows s.activity key then s.execute now command
      else (.error (.blocked key (Activity.titleOf s.activity)), s)

/-- Runs a line and answers in words, whether it succeeds or not. -/
def answer (s : Session) (now : Int64) (line : String) : String × Session :=
  match s.run now line with
  | (.ok reply, s) => (reply, s)
  | (.error e, s) => (e.message, s)

/-! ### Activities -/

/-- Changes to an activity. Files, repository, record and hints start over, and the files of the
activity are written. -/
def select (s : Session) (activity : Option Activity) : Except HostError Unit × Session :=
  let s := { s with workspace := .empty, hints := .empty }
  match s.host.reset with
  | (.error e, host) => (.error e, { s with host })
  | (.ok (), host) =>
    let seeds := (activity.map (·.seeds)).getD []
    let workspace := seeds.foldl (fun w seed => w.write seed.path seed.content) s.workspace
    (.ok (), { s with host, activity, workspace })

/-- The missions of the activity, each with what it still lacks. -/
def missions (s : Session) : List (Mission × List String) :=
  ((s.activity.map (·.missions)).getD []).map fun m => (m, m.check.lacking s.workspace s.host)

/-- Saves a file, as an editor would. -/
def write (s : Session) (path content : String) : Session :=
  { s with workspace := s.workspace.write path content }

end Session

end GitTutor
