import GitTutor.Table

/-!
Activities: what a lesson allows, what it asks for, and the files it starts with.
-/

namespace GitTutor

/-- What a mission asks for. -/
inductive Check where
  /-- A file exists, and the latest commit message holds a phrase. -/
  | firstCommit (file phrase : String)
  /-- Something has been pushed. -/
  | remotePushed
  /-- The local history and the remote one have at least so many commits. -/
  | remoteHistory (minimum : Nat)
  /-- A branch has commits and was the last one pushed. -/
  | branchPushed (branch : String)
  /-- The first heading of a page mentions a word. -/
  | headingMentions (file word : String)
  /-- Two references stand at one commit. -/
  | branchesConverged (target source : String)
  /-- A merge has left a conflict. -/
  | conflictProduced
  /-- No conflict marks are left, and the latest commit message holds a phrase. -/
  | conflictResolved (phrase : String)
  /-- A pull request into a branch comes from a local branch. -/
  | requestOpened (target : String)
  /-- The site is published, and a page of it exists. -/
  | pagesPublished (file : String)
  deriving DecidableEq

structure Mission where
  id : String
  title : String
  description : String
  check : Check
  deriving DecidableEq

structure SeedFile where
  path : String
  content : String
  deriving DecidableEq

structure Activity where
  id : String
  title : String
  description : String
  /-- The keys of the commands that the activity allows; without a list it allows all. -/
  allowed : Option NameSet
  missions : List Mission
  seeds : List SeedFile
  deriving DecidableEq

/-- Whether commands of a key may run while `activity` is chosen. -/
def Activity.allows (activity : Option Activity) (key : String) : Bool :=
  match activity.bind (·.allowed) with
  | none => true
  | some allowed => allowed.contains key

/-- What a refusal calls the chosen activity. -/
def Activity.titleOf (activity : Option Activity) : String :=
  match activity with
  | none => "this activity"
  | some a => a.title

end GitTutor
