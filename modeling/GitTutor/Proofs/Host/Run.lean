import GitTutor.Host.Basic
import GitTutor.Proofs.Host.Document
import GitTutor.Proofs.Workspace.Anchorage

/-!
Runs of a workspace and the host next to it.

In a run, operations on the workspace and on the host come in any order, and the calls of the store
may fail or work again at any point. `Ending` lists every way in which a step can end, with what it
leaves of the record and of the count of pull requests, and with the event that it has caused if it
has changed the record. What holds over whole runs is proved from this relation alone.
-/

namespace GitTutor

/-- The record of a new repository. -/
def Record.new (name : String) : Record where
  name := name
  url := Host.hostUrl ++ "/" ++ name ++ ".git"
  defaultBranch := "main"
  lastPushed := none
  commits := []
  requests := []
  published := false

namespace Host

/-- What can be asked of the host. -/
inductive Operation where
  | create (name : String)
  | push (remote branch : String)
  | pull (remote branch : String)
  | clone (url : String)
  | openRequest (source : String) (target title : Option String)
  | mergeRequest (id : UInt64)
  | publish
  | republish
  | reset

/-- The id that the next pull request gets. -/
def nextId (h : Host) (record : Record) : UInt64 :=
  max h.nextRequest (greatestId record.requests + 1)

/-- The host after it has counted the id that a request gets. -/
def counting (h : Host) (record : Record) : Host :=
  { h with nextRequest := h.nextId record + 1 }

/-- The host with another record in its store. -/
def keeping (h : Host) (record : Record) : Host :=
  { h with store := { h.store with medium := h.store.medium.save record } }

/-- The host without a record. -/
def cleared (h : Host) : Host := ⟨{ h.store with medium := h.store.medium.clear }, 1⟩

/-- The host whose store fails on other calls. -/
def failing (h : Host) (faults : Faults) : Host := { h with store := { h.store with faults } }

end Host

/-- What an operation of the host has done to the record. -/
inductive Event where
  | created (name : String)
  /-- A branch was pushed as it was in the workspace. -/
  | pushed (branch : String) (workspace : Workspace)
  | opened (request : PullRequest)
  | merged (id : UInt64)
  | published
  | reset

def Event.request? : Event → Option PullRequest
  | opened request => some request
  | _ => none

/-- The pull requests that were opened, in that order, by events of which the newest stands in
front. -/
def openedIn (events : List Event) : List PullRequest := (events.filterMap Event.request?).reverse

lemma openedIn_opened (request : PullRequest) (events : List Event) :
    openedIn (.opened request :: events) = openedIn events ++ [request] := by
  simp [openedIn, Event.request?]

/-- A workspace and the host that it pushes to. -/
structure World where
  workspace : Workspace
  host : Host

/-- A step of a run: an operation on the workspace or on the host, or a change of the calls of the
store that fail from then on. -/
inductive Step where
  | workspace (op : Workspace.Operation)
  | host (op : Host.Operation)
  | faults (faults : Faults)

namespace World

variable {α : Type}

/-- Takes over the host that an operation leaves, with the event that its success is. -/
def settle (w : World) (event : α → Event) : Except HostError α × Host → Option Event × World
  | (.ok a, host) => (some (event a), { w with host })
  | (.error _, host) => (none, { w with host })

/-- A pull and a clone change nothing of the host. -/
def perform (w : World) : Host.Operation → Option Event × World
  | .create name => w.settle (fun _ => .created name) (w.host.create name)
  | .push remote branch =>
    w.settle (fun _ => .pushed branch w.workspace) (w.host.push w.workspace remote branch)
  | .pull _ _ => (none, w)
  | .clone url => (none, { w with workspace := (w.host.cloneInto w.workspace url).2 })
  | .openRequest source target title => w.settle .opened (w.host.openRequest source target title)
  | .mergeRequest id => w.settle (fun _ => .merged id) (w.host.mergeRequest id)
  | .publish | .republish => w.settle (fun _ => .published) w.host.publish
  | .reset => w.settle (fun _ => .reset) w.host.reset

def step (w : World) : Step → Option Event × World
  | .workspace op => (none, { w with workspace := (op.perform w.workspace).2 })
  | .host op => w.perform op
  | .faults faults => (none, { w with host := w.host.failing faults })

/-- The record in the store, which stays there even while it cannot be loaded. -/
def stored (w : World) : Except StoreError (Option Record) := w.host.store.medium.load

end World

/-! ### The ways in which a step can end -/

inductive Ending (w : World) : Step → Option Event → World → Prop
  /-- The host is as it was. -/
  | aside {s : Step} (workspace : Workspace) : Ending w s none ⟨workspace, w.host⟩
  | faults (faults : Faults) :
      Ending w (.faults faults) none ⟨w.workspace, w.host.failing faults⟩
  | created (name : String) :
      Ending w (.host (.create name)) (some (.created name))
        ⟨w.workspace, w.host.keeping (.new name)⟩
  | pushed {remote branch : String} {record : Record} {log : List Commit}
      (stored : w.host.require = .ok record) (read : w.workspace.log branch = .ok log) :
      Ending w (.host (.push remote branch)) (some (.pushed branch w.workspace))
        ⟨w.workspace, w.host.keeping
          { record with lastPushed := some branch, commits := log.map Host.commitRecord }⟩
  | opened {source : String} {target title : Option String} {record : Record}
      {request : PullRequest} (stored : w.host.require = .ok record)
      (id : request.id = w.host.nextId record) (status : request.status = .opened) :
      Ending w (.host (.openRequest source target title)) (some (.opened request))
        ⟨w.workspace, (w.host.counting record).keeping
          { record with requests := record.requests ++ [request] }⟩
  /-- The id of a request is counted even where its record could not be kept. -/
  | counted {source : String} {target title : Option String} {record : Record}
      (stored : w.host.require = .ok record) :
      Ending w (.host (.openRequest source target title)) none
        ⟨w.workspace, w.host.counting record⟩
  | merged {id : UInt64} {record : Record} {merged : PullRequest} {requests : List PullRequest}
      (stored : w.host.require = .ok record)
      (marked : Host.markMerged id record.requests = some (merged, requests)) :
      Ending w (.host (.mergeRequest id)) (some (.merged id))
        ⟨w.workspace, w.host.keeping { record with requests }⟩
  | published {s : Step} {record : Record} (stored : w.host.require = .ok record)
      (pushed : record.commits ≠ []) :
      Ending w s (some .published)
        ⟨w.workspace, w.host.keeping { record with published := true }⟩
  | reset (works : w.host.store.faults.clear = false) :
      Ending w (.host .reset) (some .reset) ⟨w.workspace, w.host.cleared⟩

/-- What has become of a step. -/
abbrev Ends (w : World) (s : Step) (outcome : Option Event × World) : Prop :=
  Ending w s outcome.1 outcome.2

/-! ### Every step ends in one of them -/

namespace World

variable {α : Type} {w : World} {s : Step}

@[simp] lemma stored_keeping (workspace : Workspace) (h : Host) (record : Record) :
    stored ⟨workspace, h.keeping record⟩ = .ok (some record) :=
  Medium.load_save h.store.medium record

@[simp] lemma stored_cleared (workspace : Workspace) (h : Host) :
    stored ⟨workspace, h.cleared⟩ = .ok none :=
  Medium.load_clear h.store.medium

lemma stored_of_require {record : Record} (h : w.host.require = .ok record) :
    w.stored = .ok (some record) := by
  unfold Host.require Host.record? Store.load at h
  unfold stored
  by_cases fails : w.host.store.faults.load = true
  · simp [fails] at h
  · cases hload : w.host.store.medium.load with
    | error e => simp [fails, hload] at h
    | ok found =>
      cases found with
      | none => simp [fails, hload] at h
      | some record' =>
        simp only [fails, Bool.false_eq_true, if_false, hload, Except.ok.injEq] at h
        rw [h]

lemma keep_cases (h : Host) (record : Record) (answer : α) :
    h.keep record answer = (.ok answer, h.keeping record) ∨
      ∃ e, h.keep record answer = (.error e, h) := by
  unfold Host.keep Store.save
  by_cases fails : h.store.faults.save = true
  · exact .inr ⟨.store (.failed "save"), by simp [fails]⟩
  · exact .inl (by simp [fails, Host.keeping])

lemma ends_keep {h : Host} {event : α → Event} {record : Record} {answer : α}
    (kept : Ending w s (some (event answer)) ⟨w.workspace, h.keeping record⟩)
    (lost : Ending w s none ⟨w.workspace, h⟩) :
    Ends w s (w.settle event (h.keep record answer)) := by
  rcases keep_cases h record answer with hk | ⟨e, hk⟩
  · rw [hk]
    exact kept
  · rw [hk]
    exact lost

lemma ends_push (w : World) (remote branch : String) :
    Ends w (.host (.push remote branch)) (w.perform (.push remote branch)) := by
  rw [perform, Host.push]
  by_cases other : remote ≠ Host.origin
  · rw [if_pos other]
    exact .aside w.workspace
  rw [if_neg other]
  cases stored : w.host.require with
  | error e => exact .aside w.workspace
  | ok record =>
    cases read : w.workspace.log branch with
    | error e => exact .aside w.workspace
    | ok log => exact ends_keep (.pushed stored read) (.aside w.workspace)

lemma ends_openRequest (w : World) (source : String) (target title : Option String) :
    Ends w (.host (.openRequest source target title))
      (w.perform (.openRequest source target title)) := by
  rw [perform, Host.openRequest]
  cases stored : w.host.require with
  | error e => exact .aside w.workspace
  | ok record => exact ends_keep (.opened stored rfl rfl) (.counted stored)

lemma ends_mergeRequest (w : World) (id : UInt64) :
    Ends w (.host (.mergeRequest id)) (w.perform (.mergeRequest id)) := by
  rw [perform, Host.mergeRequest]
  cases stored : w.host.require with
  | error e => exact .aside w.workspace
  | ok record =>
    simp only
    cases marked : Host.markMerged id record.requests with
    | none => exact .aside w.workspace
    | some p => exact ends_keep (.merged stored marked) (.aside w.workspace)

lemma ends_publish (w : World) (s : Step) :
    Ends w s (w.settle (fun _ => .published) w.host.publish) := by
  rw [Host.publish]
  cases stored : w.host.require with
  | error e => exact .aside w.workspace
  | ok record =>
    simp only
    by_cases bare : record.commits.isEmpty = true
    · rw [if_pos bare]
      exact .aside w.workspace
    · rw [if_neg bare]
      exact ends_keep (.published stored (mt List.isEmpty_iff.2 bare)) (.aside w.workspace)

lemma ends_reset (w : World) : Ends w (.host .reset) (w.perform .reset) := by
  rw [perform, Host.reset, Store.clear]
  by_cases fails : w.host.store.faults.clear = true
  · rw [if_pos fails]
    exact .aside w.workspace
  · rw [if_neg fails]
    exact .reset (Bool.eq_false_iff.2 fails)

/-- **Every step ends in one of the ways that `Ending` lists.** -/
theorem ends_step (w : World) (s : Step) : Ends w s (w.step s) := by
  cases s with
  | workspace op => exact .aside _
  | faults faults => exact .faults faults
  | host op =>
    cases op with
    | create name => exact ends_keep (.created name) (.aside w.workspace)
    | push remote branch => exact ends_push w remote branch
    | pull remote branch => exact .aside w.workspace
    | clone url => exact .aside _
    | openRequest source target title => exact ends_openRequest w source target title
    | mergeRequest id => exact ends_mergeRequest w id
    | publish => exact ends_publish w _
    | republish => exact ends_publish w _
    | reset => exact ends_reset w

/-! ### The workspace of a run -/

lemma workspace_settle (w : World) (event : α → Event) (outcome : Except HostError α × Host) :
    (w.settle event outcome).2.workspace = w.workspace := by
  obtain ⟨_ | _, host⟩ := outcome <;> rfl

/-- A clone leaves the workspace as it is, or starts it over by operations on an empty one. -/
lemma cloneInto_induction {P : Workspace → Prop} (empty : P .empty)
    (init : ∀ {w} (branch : String), P w → P ((Workspace.Operation.init branch).perform w).2)
    (addRemote : ∀ {w} (name url : String), P w →
      P ((Workspace.Operation.addRemote name url).perform w).2)
    (h : Host) {workspace : Workspace} (hw : P workspace) (url : String) :
    P (h.cloneInto workspace url).2 := by
  simp only [Workspace.Operation.perform, Workspace.Answer.wrap_snd] at init addRemote
  unfold Host.cloneInto
  split
  · exact hw
  · exact hw
  · rename_i record _
    split
    · have started := init record.defaultBranch empty
      split
      · rename_i hinit
        rwa [hinit] at started
      · rename_i hinit
        rw [hinit] at started
        have named := addRemote Host.origin record.url started
        split
        all_goals
          rename_i hremote
          rwa [hremote] at named
    · exact hw

lemma anchored_step (anchored : w.workspace.Anchored) (s : Step) :
    (w.step s).2.workspace.Anchored := by
  cases s with
  | workspace op => exact anchored.perform op
  | faults faults => exact anchored
  | host op =>
    cases op with
    | clone url =>
      exact cloneInto_induction Workspace.anchored_empty (fun _ h => h.perform _)
        (fun _ _ h => h.perform _) w.host anchored url
    | pull remote branch => exact anchored
    | _ =>
      rw [step, perform, workspace_settle]
      exact anchored

end World

/-! ### Runs -/

/-- What a run has come to, with its events, the newest first. -/
structure Trace where
  events : List Event
  world : World

namespace Trace

/-- Before the first step. -/
def start (workspace : Workspace) (store : Store) : Trace := ⟨[], ⟨workspace, .new store⟩⟩

def next (t : Trace) (s : Step) : Trace :=
  ⟨(t.world.step s).1.toList ++ t.events, (t.world.step s).2⟩

def after (t : Trace) (steps : List Step) : Trace := steps.foldl next t

lemma after_induction {P : Trace → Prop} (step : ∀ t s, P t → P (t.next s)) {t : Trace} (h : P t)
    (steps : List Step) : P (t.after steps) := by
  induction steps generalizing t with
  | nil => exact h
  | cons s steps ih => exact ih (step t s h)

end Trace

end GitTutor
