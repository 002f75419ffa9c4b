import GitTutor.Data.Json.Reader

/-!
The record that the simulated host keeps of its one repository, and its document.
-/

namespace GitTutor

/-- What the host knows of a commit. -/
structure CommitRecord where
  id : String
  message : String
  author : String
  seconds : Int64
  deriving DecidableEq

inductive RequestStatus where
  | opened
  | merged
  deriving DecidableEq

structure PullRequest where
  id : UInt64
  source : String
  target : String
  title : String
  status : RequestStatus
  deriving DecidableEq

structure Record where
  name : String
  url : String
  defaultBranch : String
  /-- The branch that was pushed last. -/
  lastPushed : Option String
  /-- The history of that branch when it was pushed, the newest commit first. -/
  commits : List CommitRecord
  /-- The pull requests in the order in which they were opened. -/
  requests : List PullRequest
  /-- Whether the site is published. -/
  published : Bool
  deriving DecidableEq

/-- Where the site of a repository is published. -/
def Record.pagesUrl (r : Record) : String := "https://" ++ r.name ++ ".github-sim.local/"

def RequestStatus.text : RequestStatus → String
  | opened => "OPEN"
  | merged => "MERGED"

/-! ### Documents -/

open Value

def CommitRecord.toValue (c : CommitRecord) : Value :=
  .object [("oid", .text c.id), ("message", .text c.message), ("author", .text c.author),
    ("timestampSeconds", .int c.seconds.toInt)]

def PullRequest.toValue (r : PullRequest) : Value :=
  .object [("id", .int r.id.toNat), ("fromBranch", .text r.source), ("toBranch", .text r.target),
    ("title", .text r.title), ("status", .text r.status.text)]

def Record.toValue (r : Record) : Value :=
  .object [("name", .text r.name), ("url", .text r.url), ("defaultBranch", .text r.defaultBranch),
    ("lastPushedBranch", match r.lastPushed with
      | some branch => .text branch
      | none => .null),
    ("commits", .list (r.commits.map CommitRecord.toValue)),
    ("pullRequests", .list (r.requests.map PullRequest.toValue)),
    ("pagesState", .text (if r.published then "PUBLISHED" else "UNPUBLISHED"))]

def CommitRecord.ofValue? (v : Value) : Option CommitRecord := do
  let ms ← v.members? .refused ["oid", "message", "author", "timestampSeconds"]
  return {
    id := ← required? ms "oid" text?
    message := ← required? ms "message" text?
    author := ← required? ms "author" text?
    seconds := ← required? ms "timestampSeconds" int64? }

def RequestStatus.ofValue? (v : Value) : Option RequestStatus :=
  match v.name? with
  | some "OPEN" => some .opened
  | some "MERGED" => some .merged
  | _ => none

def PullRequest.ofValue? (v : Value) : Option PullRequest := do
  let ms ← v.members? .refused ["id", "fromBranch", "toBranch", "title", "status"]
  return {
    id := ← required? ms "id" uint64?
    source := ← required? ms "fromBranch" text?
    target := ← required? ms "toBranch" text?
    title := ← required? ms "title" text?
    status := ← required? ms "status" RequestStatus.ofValue? }

def publishedOfValue? (v : Value) : Option Bool :=
  match v.name? with
  | some "PUBLISHED" => some true
  | some "UNPUBLISHED" => some false
  | _ => none

/-- Reads a record. The last branch, the pull requests and the state of the site may be missing. -/
def Record.ofValue? (v : Value) : Option Record := do
  let ms ← v.members? .refused
    ["name", "url", "defaultBranch", "lastPushedBranch", "commits", "pullRequests", "pagesState"]
  return {
    name := ← required? ms "name" text?
    url := ← required? ms "url" text?
    defaultBranch := ← required? ms "defaultBranch" text?
    lastPushed := ← optional? ms "lastPushedBranch" none (nullable? text?)
    commits := ← required? ms "commits" (list? CommitRecord.ofValue?)
    requests := ← optional? ms "pullRequests" [] (list? PullRequest.ofValue?)
    published := ← optional? ms "pagesState" false publishedOfValue? }

/-- The document of a record. -/
def Record.document (r : Record) : String := Json.toLine r.toValue

def Record.ofDocument? (text : String) : Option Record :=
  (Json.ofText? text).bind Record.ofValue?

end GitTutor
