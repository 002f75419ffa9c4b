import GitTutor.Data.Toml.Reader
import GitTutor.Lesson.Builtin
import GitTutor.Lesson.Document

/-!
Catalogs: lists of activities in which each id stands once, as does each mission of an activity.
-/

namespace GitTutor

inductive CatalogError where
  | parse
  | duplicateActivity (id : String)
  | duplicateMission (activity mission : String)
  deriving DecidableEq

def CatalogError.message : CatalogError → String
  | parse => "invalid catalog"
  | duplicateActivity id => "duplicate activity id: " ++ id
  | duplicateMission activity mission => s!"activity {activity} lists mission {mission} twice"

namespace Catalog

/-- The first name that stands in a list for the second time. -/
def firstRepeated (seen : List String) : List String → Option String
  | [] => none
  | name :: names => if name ∈ seen then some name else firstRepeated (name :: seen) names

/-- The first fault of a list of activities, of which those called `seen` stand before. -/
def fault (seen : List String) : List Activity → Option CatalogError
  | [] => none
  | a :: as =>
    if a.id ∈ seen then some (.duplicateActivity a.id)
    else
      match firstRepeated [] (a.missions.map (·.id)) with
      | some mission => some (.duplicateMission a.id mission)
      | none => fault (a.id :: seen) as

/-- Reads a catalog from a text with a list of tables called `activity`. -/
def ofText (text : String) : Except CatalogError (List Activity) :=
  let activities? := do
    let ms ← (← Toml.ofText? text).members? .ignored ["activity"]
    Value.optional? ms "activity" [] (Value.list? (Activity.ofValue? .ignored))
  match activities? with
  | none => .error .parse
  | some activities =>
    match fault [] activities with
    | some e => .error e
    | none => .ok activities

def find? (catalog : List Activity) (id : String) : Option Activity := catalog.find? (·.id = id)

end Catalog

end GitTutor
