import GitTutor.Repository.History
import GitTutor.Text.Blank
import GitTutor.Text.Hex
import GitTutor.Text.Search

/-!
Repositories and the files around them.

Every operation on a workspace gives an answer or the cause of its failure, together with the
workspace that it leaves. A merge that stops on conflicts counts as a failure and yet leaves its
work behind.
-/

namespace GitTutor

inductive Head where
  | branch (name : String)
  | detached (id : CommitId)
  deriving DecidableEq

structure Repository where
  history : History
  branches : Table CommitId
  head : Head
  index : Tree
  /-- The paths that the last merge has left in conflict. -/
  conflicts : NameSet
  /-- The other side of a merge that is not finished. -/
  mergeHead : Option CommitId
  remotes : Table String
  deriving DecidableEq

/-- The files of a directory, and its repository once there is one. -/
structure Workspace where
  files : Tree
  repository : Option Repository
  deriving DecidableEq

inductive RepoError where
  | notInitialized
  | unknownRef (reference : String)
  | unbornBranch (branch : String)
  | branchExists (name : String)
  | invalidBranchName (name : String)
  | fileNotFound (path : String)
  | nothingToCommit
  | unresolvedConflicts (paths : List String)
  | localChanges (paths : List String)
  | untrackedOverwritten (paths : List String)
  | mergeConflict (ours theirs : String) (paths : List String)
  | remoteExists (name : String)
  | remoteNotFound (name : String)
  deriving DecidableEq

def RepoError.message : RepoError → String
  | notInitialized => "repository not initialized"
  | unknownRef reference => "unknown reference: " ++ reference
  | unbornBranch branch => s!"branch '{branch}' has no commits yet"
  | branchExists name => "branch already exists: " ++ name
  | invalidBranchName name => "invalid branch name: " ++ name
  | fileNotFound path => "no such file: " ++ path
  | nothingToCommit => "nothing to commit"
  | unresolvedConflicts paths => "unresolved conflicts in: " ++ ", ".intercalate paths
  | localChanges paths => "local changes would be overwritten: " ++ ", ".intercalate paths
  | untrackedOverwritten paths =>
    "untracked files would be overwritten: " ++ ", ".intercalate paths
  | mergeConflict ours theirs paths =>
    s!"merge conflict between {ours} and {theirs} in: " ++ ", ".intercalate paths
  | remoteExists name => "remote already exists: " ++ name
  | remoteNotFound name => "no such remote: " ++ name

/-- The directory that holds a repository, among the files of its workspace. -/
def metadataDir : String := ".git"

/-- Whether a branch may have a name. -/
def validBranchName (name : String) : Bool :=
  let cs := name.toList
  !cs.isEmpty && name ≠ "HEAD" && cs.head? ≠ some '-' && cs.head? ≠ some '/' &&
    cs.getLast? ≠ some '/' && !".lock".toList.isSuffixOf cs && !Text.contains ['.', '.'] cs &&
    cs.all fun c => !Text.isBlank c && c ∉ ['~', '^', ':', '?', '*', '[', '\\']

namespace Repository

/-- A repository without commits, on the branch that the first one will start. -/
def start (branch : String) : Repository where
  history := []
  branches := ∅
  head := .branch branch
  index := ∅
  conflicts := ∅
  mergeHead := none
  remotes := ∅

/-- The commit that is checked out; a branch may have none yet. -/
def headId (r : Repository) : Option CommitId :=
  match r.head with
  | .branch name => r.branches.get? name
  | .detached id => some id

def headLabel (r : Repository) : String :=
  match r.head with
  | .branch name => name
  | .detached id => id.short

def treeOf (r : Repository) (id : CommitId) : Tree :=
  match r.history.find? id with
  | some c => c.tree
  | none => ∅

def headTree (r : Repository) : Tree :=
  match r.headId with
  | some id => r.treeOf id
  | none => ∅

/-- The one commit whose id starts with at least four given digits. -/
def abbreviated? (r : Repository) (reference : String) : Option CommitId :=
  let cs := reference.toList
  if 4 ≤ cs.length ∧ cs.all Text.isHexDigit then
    match r.history.ids.filter fun id => (cs.map Char.toLower).isPrefixOf id.hex.toList with
    | [id] => some id
    | _ => none
  else none

/-- The commit that a reference names: `HEAD`, a branch, or the start of an id. -/
def resolve (r : Repository) (reference : String) : Except RepoError CommitId :=
  if reference = "HEAD" then
    match r.headId with
    | some id => .ok id
    | none => .error (.unbornBranch r.headLabel)
  else
    match r.branches.get? reference with
    | some id => .ok id
    | none =>
      if r.head = .branch reference then .error (.unbornBranch reference)
      else
        match r.abbreviated? reference with
        | some id => .ok id
        | none => .error (.unknownRef reference)

/-- Moves the current branch, or the detached head. -/
def advance (r : Repository) (id : CommitId) : Repository :=
  match r.head with
  | .branch name => { r with branches := r.branches.insert name id }
  | .detached _ => { r with head := .detached id }

/-- Adds a commit and moves the head to it. -/
def record (r : Repository) (now : Int64) (tree : Tree) (parents : List CommitId)
    (message : String) (author : Signature) : CommitId × Repository :=
  let c := Commit.ofSnapshot
    { tree, parents, author, seconds := now, seq := r.history.length, message }
  (c.id, { r with history := r.history.insert c }.advance c.id)

end Repository

namespace Workspace

variable {α : Type}

def empty : Workspace := ⟨∅, none⟩

instance : Inhabited Workspace := ⟨empty⟩

/-- Runs an operation where there is a repository. -/
def onRepository (w : Workspace) (run : Repository → Except RepoError α × Workspace) :
    Except RepoError α × Workspace :=
  match w.repository with
  | none => (.error .notInitialized, w)
  | some r => run r

/-- Asks the repository, where there is one. -/
def ask (w : Workspace) (query : Repository → Except RepoError α) : Except RepoError α :=
  match w.repository with
  | none => .error .notInitialized
  | some r => query r

def isInitialized (w : Workspace) : Bool := w.repository.isSome

def read (w : Workspace) (path : String) : Option String := w.files.get? path

def fileExists (w : Workspace) (path : String) : Bool := w.files.contains path

def write (w : Workspace) (path content : String) : Workspace :=
  { w with files := w.files.insert path content }

/-- The names of the files, after that of the repository. -/
def entries (w : Workspace) : List String :=
  if w.isInitialized then metadataDir :: w.files.names else w.files.names

def visible (w : Workspace) : List String := w.entries.filter (· ≠ metadataDir)

/-- Starts a repository. One that is there already stays as it is. -/
def init (w : Workspace) (branch : String) : Except RepoError Unit × Workspace :=
  match w.repository with
  | some _ => (.ok (), w)
  | none =>
    if validBranchName branch then (.ok (), { w with repository := some (.start branch) })
    else (.error (.invalidBranchName branch), w)

def resolve (w : Workspace) (reference : String) : Except RepoError CommitId :=
  w.ask fun r => r.resolve reference

/-- The commits that a reference leads to, the newest first. -/
def log (w : Workspace) (reference : String) : Except RepoError (List Commit) :=
  w.ask fun r =>
    match r.resolve reference with
    | .ok id => .ok (r.history.log id)
    | .error e => .error e

def branches (w : Workspace) : Except RepoError (List String) :=
  w.ask fun r => .ok r.branches.names

/-- The current branch; none when the head is detached. -/
def currentBranch (w : Workspace) : Except RepoError (Option String) :=
  w.ask fun r =>
    match r.head with
    | .branch name => .ok (some name)
    | .detached _ => .ok none

def createBranch (w : Workspace) (name : String) : Except RepoError Unit × Workspace :=
  if validBranchName name then
    w.onRepository fun r =>
      if r.branches.contains name then (.error (.branchExists name), w)
      else
        match r.headId with
        | none => (.error (.unbornBranch r.headLabel), w)
        | some id =>
          (.ok (), { w with repository := some { r with branches := r.branches.insert name id } })
  else (.error (.invalidBranchName name), w)

def addRemote (w : Workspace) (name url : String) : Except RepoError Unit × Workspace :=
  w.onRepository fun r =>
    if r.remotes.contains name then (.error (.remoteExists name), w)
    else (.ok (), { w with repository := some { r with remotes := r.remotes.insert name url } })

def removeRemote (w : Workspace) (name : String) : Except RepoError Unit × Workspace :=
  w.onRepository fun r =>
    if r.remotes.contains name then
      (.ok (), { w with repository := some { r with remotes := r.remotes.erase name } })
    else (.error (.remoteNotFound name), w)

def remotes (w : Workspace) : Except RepoError (List (String × String)) :=
  w.ask fun r => .ok r.remotes.entries

end Workspace

end GitTutor
