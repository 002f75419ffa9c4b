import GitTutor.Host.Store
import GitTutor.Repository.Basic

/-!
The simulated host.

It keeps one record. A push copies the whole history of a branch into it; pull requests and the
site are entries of the record alone and never touch a local repository. Every operation gives
an answer or the cause of its failure, together with the host that it leaves.
-/

namespace GitTutor

inductive HostError where
  | noRepository
  | unsupportedRemote (name : String)
  | branchUnreadable (branch : String)
  | nothingPushed
  | noMatchingRepository (url : String)
  | requestNotFound (id : UInt64)
  | store (error : StoreError)
  | repository (error : RepoError)
  deriving DecidableEq

def HostError.message : HostError → String
  | noRepository => "no simulated remote repository exists"
  | unsupportedRemote name => s!"unsupported remote '{name}'"
  | branchUnreadable branch => s!"branch '{branch}' is unreadable"
  | nothingPushed => "the remote has no commits yet"
  | noMatchingRepository url => s!"no simulated repository matches '{url}'"
  | requestNotFound id => s!"pull request #{id.toNat} not found"
  | store error => "storage error: " ++ error.message
  | repository error => "engine error: " ++ error.message

/-- What a pull finds. -/
structure PullReport where
  url : String
  branch : String
  /-- How many commits of the record the local history lacks. -/
  missing : Nat
  deriving DecidableEq

structure PagesReport where
  url : String
  wasPublished : Bool
  deriving DecidableEq

structure Host where
  store : Store
  /-- The least id that the next pull request can have. -/
  nextRequest : UInt64
  deriving DecidableEq

namespace Host

def new (store : Store) : Host := ⟨store, 1⟩

def hostUrl : String := "https://github-sim.local"

/-- The only remote that the host serves. -/
def origin : String := "origin"

def record? (h : Host) : Except HostError (Option Record) :=
  match h.store.load with
  | .ok record => .ok record
  | .error e => .error (.store e)

def require (h : Host) : Except HostError Record :=
  match h.record? with
  | .ok (some record) => .ok record
  | .ok none => .error .noRepository
  | .error e => .error e

/-- Keeps a record, and answers with `answer` if that works. -/
def keep {α : Type} (h : Host) (record : Record) (answer : α) : Except HostError α × Host :=
  match h.store.save record with
  | .ok store => (.ok answer, { h with store })
  | .error e => (.error (.store e), h)

/-- Forgets the record, and starts counting pull requests anew. -/
def reset (h : Host) : Except HostError Unit × Host :=
  match h.store.clear with
  | .ok store => (.ok (), ⟨store, 1⟩)
  | .error e => (.error (.store e), h)

/-- Creates a repository in place of the one before. -/
def create (h : Host) (name : String) : Except HostError Record × Host :=
  let record : Record :=
    { name, url := hostUrl ++ "/" ++ name ++ ".git", defaultBranch := "main", lastPushed := none,
      commits := [], requests := [], published := false }
  h.keep record record

def commitRecord (c : Commit) : CommitRecord :=
  ⟨c.id.hex, c.message, c.author.name, c.seconds⟩

/-- Replaces the commits of the record by the history that a reference leads to. -/
def push (h : Host) (w : Workspace) (remote branch : String) : Except HostError Record × Host :=
  if remote ≠ origin then (.error (.unsupportedRemote remote), h)
  else
    match h.require with
    | .error e => (.error e, h)
    | .ok record =>
      match w.log branch with
      | .error _ => (.error (.branchUnreadable branch), h)
      | .ok log =>
        let record := { record with lastPushed := some branch, commits := log.map commitRecord }
        h.keep record record

/-- Counts the commits of the record that the local history lacks. -/
def pull (h : Host) (w : Workspace) (remote branch : String) : Except HostError PullReport :=
  if remote ≠ origin then .error (.unsupportedRemote remote)
  else
    match h.require with
    | .error e => .error e
    | .ok record =>
      if record.commits.isEmpty then .error .nothingPushed
      else
        let known : List String :=
          match w.log "HEAD" with
          | .ok log => log.map fun c : Commit => c.id.hex
          | .error _ => []
        .ok ⟨record.url, branch, (record.commits.filter fun c => c.id ∉ known).length⟩

/-- Starts a workspace over, with a repository that knows the record as its origin. -/
def cloneInto (h : Host) (w : Workspace) (url : String) : Except HostError Record × Workspace :=
  match h.record? with
  | .error e => (.error e, w)
  | .ok none => (.error (.noMatchingRepository url), w)
  | .ok (some record) =>
    if record.url = url ∨ record.name = url then
      match Workspace.empty.init record.defaultBranch with
      | (.error e, w) => (.error (.repository e), w)
      | (.ok (), w) =>
        match w.addRemote origin record.url with
        | (.error e, w) => (.error (.repository e), w)
        | (.ok (), w) => (.ok record, w)
    else (.error (.noMatchingRepository url), w)

/-! ### Pull requests and the site -/

/-- The greatest id of a pull request in the record, or zero. -/
def greatestId (requests : List PullRequest) : UInt64 :=
  requests.foldl (fun greatest r => max greatest r.id) 0

/-- Opens a pull request. Its id is counted even if the record cannot be kept. -/
def openRequest (h : Host) (source : String) (target title : Option String) :
    Except HostError PullRequest × Host :=
  match h.require with
  | .error e => (.error e, h)
  | .ok record =>
    let target := target.getD record.defaultBranch
    let title := title.getD s!"Merge {source} into {target}"
    let id := max h.nextRequest (greatestId record.requests + 1)
    let request : PullRequest := { id, source, target, title, status := .opened }
    let h := { h with nextRequest := id + 1 }
    h.keep { record with requests := record.requests ++ [request] } request

def requests (h : Host) : Except HostError (List PullRequest) :=
  match h.require with
  | .ok record => .ok record.requests
  | .error e => .error e

/-- Marks the first request of an id as merged; gives it and all the requests. -/
def markMerged (id : UInt64) : List PullRequest → Option (PullRequest × List PullRequest)
  | [] => none
  | r :: rs =>
    if r.id = id then
      let merged := { r with status := .merged }
      some (merged, merged :: rs)
    else (markMerged id rs).map fun p => (p.1, r :: p.2)

def mergeRequest (h : Host) (id : UInt64) : Except HostError PullRequest × Host :=
  match h.require with
  | .error e => (.error e, h)
  | .ok record =>
    match markMerged id record.requests with
    | none => (.error (.requestNotFound id), h)
    | some (merged, requests) => h.keep { record with requests } merged

/-- Publishes the site, for the first time or again. -/
def publish (h : Host) : Except HostError PagesReport × Host :=
  match h.require with
  | .error e => (.error e, h)
  | .ok record =>
    if record.commits.isEmpty then (.error .nothingPushed, h)
    else h.keep { record with published := true } ⟨record.pagesUrl, record.published⟩

/-! ### Summary -/

/-- The lines about what has been pushed. -/
def pushedLines (record : Record) : List String :=
  match record.lastPushed with
  | none => ["  (nothing pushed yet)"]
  | some branch =>
    if record.commits.isEmpty then ["  (nothing pushed yet)"]
    else
      ["  Last pushed:    " ++ branch, "  Remote commits:"] ++
        record.commits.map fun c =>
          "    " ++ String.ofList (c.id.toList.take 7) ++ "  " ++ c.message

def summary (record : Record) : String :=
  let opened := (record.requests.filter fun r => r.status = .opened).length
  "\n".intercalate (["Simulated GitHub:",
    "  Repository:     " ++ record.name,
    "  URL:            " ++ record.url,
    "  Default branch: " ++ record.defaultBranch] ++
    pushedLines record ++
    (if record.requests.isEmpty then []
      else [s!"  Pull requests:  {record.requests.length} ({opened} open)"]) ++
    (if record.published then ["  Pages:          " ++ record.pagesUrl] else []))

/-- A summary of the record, if there is one. -/
def status (h : Host) : Except HostError (Option String) :=
  match h.record? with
  | .ok record => .ok (record.map summary)
  | .error e => .error e

end Host

end GitTutor
