/-!
Commands that a learner can give, and the keys by which a lesson allows them.
-/

namespace GitTutor

inductive Command where
  | help
  | ls
  | cat (file : String)
  | touch (file : String)
  | pwd
  | init
  | status
  | add (file : String)
  /-- To stage everything at once, which the tutor refuses. -/
  | addAll
  | commit (message : String)
  /-- The history of a reference, or of `HEAD`. -/
  | log (reference : Option String)
  | branches
  | branch (name : String)
  | checkout (branch : String)
  | checkoutNew (name : String)
  | checkoutCommit (id : String)
  | merge (branch : String)
  | conflicts
  /-- Without a branch, the current one is meant. -/
  | push (remote : String) (branch : Option String)
  | pull (remote : String) (branch : Option String)
  | clone (url : String)
  | remotes (verbose : Bool)
  | remoteAdd (name url : String)
  | remoteRemove (name : String)
  | publish
  | republish
  | hostCreate (name : String)
  | hostStatus
  | requestCreate (source : String) (target title : Option String)
  | requests
  | requestMerge (id : UInt64)
  deriving DecidableEq

namespace Command

/-- The key of the family that a command belongs to. -/
def key : Command → String
  | help => "help"
  | ls => "ls"
  | cat _ => "cat"
  | touch _ => "touch"
  | pwd => "pwd"
  | init => "git init"
  | status => "git status"
  | add _ | addAll => "git add"
  | commit _ => "git commit"
  | log _ => "git log"
  | branches | branch _ => "git branch"
  | checkout _ | checkoutNew _ | checkoutCommit _ => "git checkout"
  | merge _ => "git merge"
  | conflicts => "git conflicts"
  | push _ _ => "git push"
  | pull _ _ => "git pull"
  | clone _ => "git clone"
  | remotes _ | remoteAdd _ _ | remoteRemove _ => "git remote"
  | publish | republish => "git pages"
  | hostCreate _ => "github create"
  | hostStatus => "github status"
  | requestCreate _ _ _ | requests | requestMerge _ => "github pr"

/-- Whether a command works only where a repository has been started. -/
def needsRepository : Command → Bool
  | help | ls | cat _ | touch _ | pwd | init | clone _ => false
  | hostCreate _ | hostStatus | requestCreate _ _ _ | requests | requestMerge _ => false
  | _ => true

end Command

end GitTutor
