import GitTutor.Data.Value
import GitTutor.Lesson.Activity

/-!
Reading activities from values of a document.

A check is found out by its kind before it is read, and for that its list has to end with its
members in every format.
-/

namespace GitTutor

open Value

/-- Reads a check by its kind; the members of the other kinds are passed over. -/
def Check.ofValue? (v : Value) : Option Check := do
  match ← v.tag? "kind" with
  | "first-commit" =>
    let ms ← v.members? .refused ["kind", "file", "phrase"]
    return .firstCommit (← required? ms "file" text?) (← required? ms "phrase" text?)
  | "remote-pushed" =>
    let _ ← v.members? .refused ["kind"]
    return .remotePushed
  | "remote-history" =>
    let ms ← v.members? .refused ["kind", "min-commits"]
    return .remoteHistory (← required? ms "min-commits" uint64?).toNat
  | "branch-pushed" =>
    let ms ← v.members? .refused ["kind", "branch"]
    return .branchPushed (← required? ms "branch" text?)
  | "heading-mentions" =>
    let ms ← v.members? .refused ["kind", "file", "word"]
    return .headingMentions (← required? ms "file" text?) (← required? ms "word" text?)
  | "branches-converged" =>
    let ms ← v.members? .refused ["kind", "target", "source"]
    return .branchesConverged (← required? ms "target" text?) (← required? ms "source" text?)
  | "conflict-produced" =>
    let _ ← v.members? .refused ["kind"]
    return .conflictProduced
  | "conflict-resolved" =>
    let ms ← v.members? .refused ["kind", "phrase"]
    return .conflictResolved (← required? ms "phrase" text?)
  | "pull-request-opened" =>
    let ms ← v.members? .refused ["kind", "to"]
    return .requestOpened (← required? ms "to" text?)
  | "pages-published" =>
    let ms ← v.members? .refused ["kind", "file"]
    return .pagesPublished (← required? ms "file" text?)
  | _ => none

def Mission.ofValue? (surplus : Surplus) (v : Value) : Option Mission := do
  let ms ← v.members? surplus ["id", "title", "description", "check"]
  return {
    id := ← required? ms "id" text?
    title := ← required? ms "title" text?
    description := ← optional? ms "description" "" text?
    check := ← required? ms "check" Check.ofValue? }

def SeedFile.ofValue? (surplus : Surplus) (v : Value) : Option SeedFile := do
  let ms ← v.members? surplus ["path", "content"]
  return { path := ← required? ms "path" text?, content := ← required? ms "content" text? }

def Activity.ofValue? (surplus : Surplus) (v : Value) : Option Activity := do
  let ms ← v.members? surplus
    ["id", "title", "description", "allowed-commands", "missions", "seed-files"]
  let allowed ← optional? ms "allowed-commands" none (nullable? (list? text?))
  return {
    id := ← required? ms "id" text?
    title := ← required? ms "title" text?
    description := ← optional? ms "description" "" text?
    allowed := allowed.map NameSet.ofList
    missions := ← optional? ms "missions" [] (list? (Mission.ofValue? surplus))
    seeds := ← optional? ms "seed-files" [] (list? (SeedFile.ofValue? surplus)) }

end GitTutor
