import GitTutor.Lesson.Activity
import GitTutor.Text.Lines

/-!
Reports about hints, missions and activities.
-/

namespace GitTutor.Report

def unlines (ls : List String) : String := "\n".intercalate ls

/-- A hint under its heading, indented. -/
def hint (text : String) : String :=
  let body := (Text.lines text.toList).map fun line => "  " ++ String.ofList line
  "Hint:\n" ++ unlines body

/-- The lines about one mission. One that lacks nothing is done. -/
def mission (m : Mission) (lacking : List String) : List String :=
  if lacking.isEmpty then ["[x] " ++ m.title]
  else
    let description := if m.description.isEmpty then [] else ["    " ++ m.description]
    ("[ ] " ++ m.title) :: description ++ lacking.map ("    - " ++ ·)

/-- The missions of an activity, each with what it still lacks. -/
def missions (results : List (Mission × List String)) : String :=
  if results.isEmpty then "No missions in this activity."
  else
    let done := (results.filter fun r => r.2.isEmpty).length
    unlines ((results.flatMap fun r => mission r.1 r.2) ++
      ["", s!"{done}/{results.length} missions complete"])

def activity (a : Activity) : String :=
  let count := a.missions.length
  let noun := if count = 1 then "mission" else "missions"
  let description := if a.description.isEmpty then "" else "\n    " ++ a.description
  s!"{a.id}  {a.title} ({count} {noun})" ++ description

def activities (as : List Activity) : String := unlines (as.map activity)

end GitTutor.Report
