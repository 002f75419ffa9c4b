import GitTutor.Proofs.Host.Counting

/-!
The record replays what has succeeded.

At every point of a run the record in the store is determined by the events since the repository
was created (`Replays`): by the last push, by whether the site was published, and by the pull
requests that were opened and merged. Calls that fail leave no trace in it.
-/

namespace GitTutor

/-! ### Events -/

/-- The repository that stands after events, the newest first: its name, and what has happened
since it was created. -/
def standing? : List Event → Option (String × List Event)
  | [] => none
  | .reset :: _ => none
  | .created name :: _ => some (name, [])
  | e :: events => (standing? events).map fun p => (p.1, e :: p.2)

namespace Event

def push? : Event → Option (String × Workspace)
  | pushed branch workspace => some (branch, workspace)
  | _ => none

def mergedId? : Event → Option UInt64
  | merged id => some id
  | _ => none

end Event

/-- The branch that was pushed last, and the workspace that it was pushed from. -/
def lastPush? (since : List Event) : Option (String × Workspace) := since.findSome? Event.push?

def mergedIn (since : List Event) : List UInt64 := since.filterMap Event.mergedId?

/-- Marks the requests with the given ids as merged. Of several requests of one id only the first
is marked; the ids that are `seen` belong to requests in front. -/
def settleRequests (ids : List UInt64) : (seen : List UInt64) → List PullRequest → List PullRequest
  | _, [] => []
  | seen, r :: rs =>
    (if r.id ∈ ids ∧ r.id ∉ seen then { r with status := .merged } else r) ::
      settleRequests ids (r.id :: seen) rs

/-- The record of the repository `name` is what has happened since it was created. -/
structure Replays (name : String) (since : List Event) (record : Record) : Prop where
  called : record.name = name
  url : record.url = Host.hostUrl ++ "/" ++ name ++ ".git"
  defaultBranch : record.defaultBranch = "main"
  unpushed : lastPush? since = none → record.lastPushed = none ∧ record.commits = []
  /-- The commits are the log of the branch in the workspace that it was pushed from. -/
  pushed : ∀ {branch workspace}, lastPush? since = some (branch, workspace) →
    record.lastPushed = some branch ∧ ∃ log, workspace.log branch = .ok log ∧ log ≠ [] ∧
      record.commits = log.map Host.commitRecord
  published : record.published = true ↔ .published ∈ since
  pushedFirst : .published ∈ since → lastPush? since ≠ none
  opened : ∀ r ∈ openedIn since, r.status = .opened
  known : ∀ id ∈ mergedIn since, ∃ r ∈ openedIn since, r.id = id
  requests : record.requests = settleRequests (mergedIn since) [] (openedIn since)

/-! ### Requests -/

section

variable {ids seen : List UInt64} {id : UInt64} {rs : List PullRequest} {r : PullRequest}

lemma map_id_settleRequests (ids seen : List UInt64) (rs : List PullRequest) :
    (settleRequests ids seen rs).map (·.id) = rs.map (·.id) := by
  induction rs generalizing seen with
  | nil => rfl
  | cons r rs ih =>
    rw [settleRequests, List.map_cons, List.map_cons, ih]
    split <;> rfl

/-- A request that is opened is not merged, even if its id has been before: then it belongs to a
request in front. -/
lemma settleRequests_append (known : r.id ∈ ids → r.id ∈ seen ∨ ∃ s ∈ rs, s.id = r.id) :
    settleRequests ids seen (rs ++ [r]) = settleRequests ids seen rs ++ [r] := by
  induction rs generalizing seen with
  | nil =>
    have old : ¬(r.id ∈ ids ∧ r.id ∉ seen) := by
      rintro ⟨merged, new⟩
      rcases known merged with old | ⟨s, hs, -⟩
      · exact new old
      · exact List.not_mem_nil hs
    rw [List.nil_append, settleRequests, settleRequests, settleRequests, if_neg old,
      List.nil_append]
  | cons s rs ih =>
    have known' : r.id ∈ ids → r.id ∈ s.id :: seen ∨ ∃ t ∈ rs, t.id = r.id := by
      intro merged
      rcases known merged with old | ⟨t, ht, same⟩
      · exact .inl (List.mem_cons_of_mem _ old)
      · rcases List.mem_cons.1 ht with rfl | ht
        · exact .inl (same ▸ List.mem_cons_self)
        · exact .inr ⟨t, ht, same⟩
    rw [List.cons_append, settleRequests, ih known']
    rfl

lemma settleRequests_of_seen (old : id ∈ seen) :
    settleRequests (id :: ids) seen rs = settleRequests ids seen rs := by
  induction rs generalizing seen with
  | nil => rfl
  | cons r rs ih =>
    have same : r.id ∈ id :: ids ∧ r.id ∉ seen ↔ r.id ∈ ids ∧ r.id ∉ seen := by
      constructor
      · rintro ⟨merged, new⟩
        rcases List.mem_cons.1 merged with rfl | merged
        · exact absurd old new
        · exact ⟨merged, new⟩
      · exact fun h => ⟨List.mem_cons_of_mem _ h.1, h.2⟩
    rw [settleRequests, settleRequests, ih (List.mem_cons_of_mem _ old), if_congr same rfl rfl]

lemma settleRequests_of_markMerged {merged : PullRequest} {requests : List PullRequest}
    (new : id ∉ seen)
    (marked : Host.markMerged id (settleRequests ids seen rs) = some (merged, requests)) :
    requests = settleRequests (id :: ids) seen rs := by
  induction rs generalizing seen merged requests with
  | nil => cases marked
  | cons r rs ih =>
    have hid :
        (if r.id ∈ ids ∧ r.id ∉ seen then { r with status := .merged } else r).id = r.id := by
      split <;> rfl
    rw [settleRequests, Host.markMerged] at marked
    rw [settleRequests]
    by_cases same : r.id = id
    · -- This is the request that the merge marks; those behind it stay, since its id is now seen.
      subst same
      rw [if_pos hid] at marked
      obtain ⟨-, rfl⟩ := Prod.mk.inj (Option.some.inj marked)
      have marks : r.id ∈ r.id :: ids ∧ r.id ∉ seen := ⟨List.mem_cons_self, new⟩
      rw [if_pos marks, settleRequests_of_seen List.mem_cons_self]
      split <;> rfl
    · rw [if_neg (hid.trans_ne same)] at marked
      obtain ⟨p, htail, hp⟩ := Option.map_eq_some_iff.1 marked
      obtain ⟨-, rfl⟩ := Prod.mk.inj hp
      have new' : id ∉ r.id :: seen := by
        rw [List.mem_cons, not_or]
        exact ⟨Ne.symm same, new⟩
      have hmem : r.id ∈ ids ∧ r.id ∉ seen ↔ r.id ∈ id :: ids ∧ r.id ∉ seen := by
        rw [List.mem_cons, or_iff_right same]
      rw [ih new' htail, if_congr hmem rfl rfl]

lemma settleRequests_of_nodup (distinct : (rs.map (·.id)).Nodup) (new : ∀ r ∈ rs, r.id ∉ seen) :
    settleRequests ids seen rs =
      rs.map fun r => if r.id ∈ ids then { r with status := .merged } else r := by
  induction rs generalizing seen with
  | nil => rfl
  | cons r rs ih =>
    obtain ⟨fresh, distinct⟩ := List.nodup_cons.1 distinct
    have new' : ∀ s ∈ rs, s.id ∉ r.id :: seen := by
      intro s hs hseen
      rcases List.mem_cons.1 hseen with same | hseen
      · exact fresh (List.mem_map.2 ⟨s, hs, same⟩)
      · exact new s (List.mem_cons_of_mem _ hs) hseen
    rw [settleRequests, ih distinct new', List.map_cons,
      if_congr (and_iff_left (new r List.mem_cons_self)) rfl rfl]

end

/-! ### Events and the record -/

namespace Replays

variable {name : String} {since : List Event} {record : Record}

lemma new (name : String) : Replays name [] (.new name) where
  called := rfl
  url := rfl
  defaultBranch := rfl
  unpushed _ := ⟨rfl, rfl⟩
  pushed h := by cases h
  published := by simp [Record.new]
  pushedFirst h := by cases h
  opened := by simp [openedIn]
  known := by simp [mergedIn]
  requests := rfl

lemma pushed_next (h : Replays name since record) {branch : String} {workspace : Workspace}
    {log : List Commit} (read : workspace.log branch = .ok log) (nonempty : log ≠ []) :
    Replays name (.pushed branch workspace :: since)
      { record with lastPushed := some branch, commits := log.map Host.commitRecord } where
  called := h.called
  url := h.url
  defaultBranch := h.defaultBranch
  unpushed hnone := by cases hnone
  pushed hlast := by
    cases hlast
    exact ⟨rfl, log, read, nonempty, rfl⟩
  published := by
    rw [List.mem_cons, or_iff_right (by simp)]
    exact h.published
  pushedFirst _ hnone := by cases hnone
  opened := h.opened
  known := h.known
  requests := h.requests

lemma opened_next (h : Replays name since record) {request : PullRequest}
    (status : request.status = .opened) :
    Replays name (.opened request :: since)
      { record with requests := record.requests ++ [request] } where
  called := h.called
  url := h.url
  defaultBranch := h.defaultBranch
  unpushed := h.unpushed
  pushed := h.pushed
  published := by
    rw [List.mem_cons, or_iff_right (by simp)]
    exact h.published
  pushedFirst := by
    rw [List.mem_cons, or_iff_right (by simp)]
    exact h.pushedFirst
  opened r hr := by
    rw [openedIn_opened, List.mem_append, List.mem_singleton] at hr
    rcases hr with hr | rfl
    · exact h.opened r hr
    · exact status
  known id hid := by
    obtain ⟨r, hr, same⟩ := h.known id hid
    exact ⟨r, openedIn_opened request since ▸ List.mem_append_left _ hr, same⟩
  requests := by
    rw [openedIn_opened]
    refine (congrArg (· ++ [request]) h.requests).trans (settleRequests_append ?_).symm
    exact fun hid => .inr (h.known request.id hid)

lemma merged_next (h : Replays name since record) {id : UInt64} {merged : PullRequest}
    {requests : List PullRequest}
    (marked : Host.markMerged id record.requests = some (merged, requests)) :
    Replays name (.merged id :: since) { record with requests } where
  called := h.called
  url := h.url
  defaultBranch := h.defaultBranch
  unpushed := h.unpushed
  pushed := h.pushed
  published := by
    rw [List.mem_cons, or_iff_right (by simp)]
    exact h.published
  pushedFirst := by
    rw [List.mem_cons, or_iff_right (by simp)]
    exact h.pushedFirst
  opened := h.opened
  known other hother := by
    rcases List.mem_cons.1 hother with rfl | hother
    · obtain ⟨before, r, after, split, same, -, -, -⟩ := markMerged_eq_some marked
      have found : r.id ∈ record.requests.map (·.id) := List.mem_map_of_mem (split ▸ by simp)
      rw [h.requests, map_id_settleRequests] at found
      obtain ⟨r', hr', same'⟩ := List.mem_map.1 found
      exact ⟨r', hr', same'.trans same⟩
    · exact h.known other hother
  requests := by
    rw [h.requests] at marked
    exact settleRequests_of_markMerged List.not_mem_nil marked

lemma published_next (h : Replays name since record) (pushed : record.commits ≠ []) :
    Replays name (.published :: since) { record with published := true } where
  called := h.called
  url := h.url
  defaultBranch := h.defaultBranch
  unpushed := h.unpushed
  pushed := h.pushed
  published := iff_of_true rfl List.mem_cons_self
  pushedFirst _ hnone := pushed (h.unpushed hnone).2
  opened := h.opened
  known := h.known
  requests := h.requests

lemma commits_ne_nil_iff (h : Replays name since record) :
    record.commits ≠ [] ↔ record.lastPushed ≠ none := by
  cases hlast : lastPush? since with
  | none =>
    obtain ⟨unnamed, bare⟩ := h.unpushed hlast
    exact iff_of_false (not_not_intro bare) (not_not_intro unnamed)
  | some p =>
    obtain ⟨named, log, -, nonempty, commits⟩ := h.pushed hlast
    refine iff_of_true ?_ (named ▸ Option.some_ne_none _)
    exact commits ▸ mt List.map_eq_nil_iff.1 nonempty

lemma commits_ne_nil_of_published (h : Replays name since record)
    (published : record.published = true) : record.commits ≠ [] := by
  have pushed := h.pushedFirst (h.published.1 published)
  refine h.commits_ne_nil_iff.2 fun unnamed => ?_
  obtain ⟨⟨branch, workspace⟩, hlast⟩ := Option.ne_none_iff_exists'.1 pushed
  rw [(h.pushed hlast).1] at unnamed
  cases unnamed

lemma requests_eq_map (h : Replays name since record)
    (ascending : record.requests.Pairwise (·.id < ·.id)) :
    record.requests = (openedIn since).map fun r =>
      if r.id ∈ mergedIn since then { r with status := .merged } else r := by
  have distinct : (record.requests.map (·.id)).Nodup :=
    List.pairwise_map.2 (ascending.imp UInt64.ne_of_lt)
  rw [h.requests, map_id_settleRequests] at distinct
  exact h.requests.trans (settleRequests_of_nodup distinct fun _ _ => List.not_mem_nil)

end Replays

/-- A run is faithful if the record in the store replays its events. -/
structure Trace.Faithful (t : Trace) : Prop where
  absent : standing? t.events = none → t.world.stored = .ok none
  present : ∀ {name since}, standing? t.events = some (name, since) →
    ∃ record, t.world.stored = .ok (some record) ∧ Replays name since record

namespace Trace

variable {t : Trace} {record : Record}

lemma Faithful.replays (h : Faithful t) (stored : t.world.host.require = .ok record) :
    ∃ name since, standing? t.events = some (name, since) ∧ Replays name since record := by
  have loaded := World.stored_of_require stored
  cases hs : standing? t.events with
  | none =>
    rw [h.absent hs] at loaded
    cases loaded
  | some p =>
    obtain ⟨name, since⟩ := p
    obtain ⟨record', stored', hr⟩ := h.present hs
    rw [stored', Except.ok.injEq, Option.some.injEq] at loaded
    exact ⟨name, since, rfl, loaded ▸ hr⟩

lemma Faithful.keeping (h : Faithful t) (stored : t.world.host.require = .ok record) {e : Event}
    (stands : standing? (e :: t.events) = (standing? t.events).map fun p => (p.1, e :: p.2))
    {workspace : Workspace} {host : Host} {record' : Record}
    (next : ∀ {name since}, Replays name since record → Replays name (e :: since) record') :
    Faithful ⟨e :: t.events, ⟨workspace, host.keeping record'⟩⟩ := by
  obtain ⟨name, since, hs, hr⟩ := h.replays stored
  rw [hs, Option.map_some] at stands
  constructor
  · intro hnone
    rw [stands] at hnone
    cases hnone
  · intro name' since' hsome
    rw [stands] at hsome
    cases hsome
    exact ⟨record', World.stored_keeping _ _ _, next hr⟩

lemma Faithful.congr (h : Faithful t) {w : World} (same : w.stored = t.world.stored) :
    Faithful ⟨t.events, w⟩ where
  absent hs := same.trans (h.absent hs)
  present hs := by
    obtain ⟨record, stored, hr⟩ := h.present hs
    exact ⟨record, same.trans stored, hr⟩

/-- **Every step of a faithful run keeps it faithful.** -/
lemma Faithful.next (h : Faithful t) (anchored : t.world.workspace.Anchored) (s : Step) :
    Faithful (t.next s) := by
  have ending := World.ends_step t.world s
  rw [Trace.next]
  generalize t.world.step s = outcome at ending ⊢
  obtain ⟨event, w⟩ := outcome
  cases ending with
  | aside _ => exact h.congr rfl
  | faults _ => exact h.congr rfl
  | counted _ => exact h.congr rfl
  | created name =>
    refine ⟨fun hs => (by cases hs), fun hs => ?_⟩
    cases hs
    exact ⟨_, World.stored_keeping _ _ _, .new name⟩
  | pushed stored read =>
    exact h.keeping stored rfl fun hr => hr.pushed_next read (anchored.log_ne_nil read)
  | opened stored id status => exact h.keeping stored rfl fun hr => hr.opened_next status
  | merged stored marked => exact h.keeping stored rfl fun hr => hr.merged_next marked
  | published stored pushed => exact h.keeping stored rfl fun hr => hr.published_next pushed
  | reset _ => exact ⟨fun _ => World.stored_cleared _ _, fun hs => by cases hs⟩

/-- **Every run from an empty store is faithful.** -/
lemma faithful_after {store : Store} (fresh : store.medium.load = .ok none) (steps : List Step) :
    Faithful ((start .empty store).after steps) := by
  have start : Faithful (start .empty store) ∧ (start .empty store).world.workspace.Anchored :=
    ⟨⟨fun _ => fresh, fun hs => by cases hs⟩, Workspace.anchored_empty⟩
  refine (after_induction (P := fun t => Faithful t ∧ t.world.workspace.Anchored) ?_ start steps).1
  intro t s ⟨faithful, anchored⟩
  exact ⟨faithful.next anchored s, World.anchored_step anchored s⟩

end Trace

/-- **The record is what the operations since the creation of the repository have made of it**, and
none that failed. While the host has not counted through all numbers, the ids of its requests are
different, and those that were merged can be told by their id alone. -/
theorem record_replays {store : Store} (fresh : store.medium.load = .ok none)
    (steps : List Step) :
    let t := (Trace.start .empty store).after steps
    (t.world.stored = .ok none ↔ standing? t.events = none) ∧
      ∀ {name since}, standing? t.events = some (name, since) →
        ∃ record, t.world.stored = .ok (some record) ∧ Replays name since record ∧
          (record.commits ≠ [] ↔ record.lastPushed ≠ none) ∧
          (record.published = true → record.commits ≠ []) ∧
          (steps.countP Step.opens < lastId.toNat →
            record.requests = (openedIn since).map fun r =>
              if r.id ∈ mergedIn since then { r with status := .merged } else r) := by
  intro t
  have faithful : t.Faithful := Trace.faithful_after fresh steps
  constructor
  · refine ⟨fun absent => ?_, faithful.absent⟩
    cases standing : standing? t.events with
    | none => rfl
    | some p =>
      obtain ⟨record, stored, -⟩ := faithful.present standing
      rw [absent] at stored
      cases stored
  · intro name since standing
    obtain ⟨record, stored, replays⟩ := faithful.present standing
    refine ⟨record, stored, replays, replays.commits_ne_nil_iff,
      replays.commits_ne_nil_of_published, fun few => replays.requests_eq_map ?_⟩
    -- While the numbers last, no two requests share an id, so each merge finds its own.
    have ascends : t.world.Ascending :=
      Trace.ascending_of_few (.of_absent Nat.one_pos fresh) (.of_absent fresh) (by
        rw [Nat.add_comm]
        exact few)
    exact ascends record stored

/-- A branch is pushed and then grows; of three requests one is merged, and one is lost while
nothing can be saved. -/
def notesSteps : List Step :=
  [.host (.create "notes"), .workspace (.init "main"), .workspace (.write "a" "x\n"),
    .workspace (.add "a"), .workspace (.commit 0 "first" ⟨"", ""⟩), .host (.push "origin" "main"),
    .workspace (.write "a" "y\n"), .workspace (.add "a"),
    .workspace (.commit 0 "second" ⟨"", ""⟩), .host (.openRequest "b" none none),
    .faults ⟨false, true, false⟩, .host (.push "origin" "main"),
    .host (.openRequest "c" none none), .faults .none, .host (.openRequest "d" none none),
    .host (.mergeRequest 1), .host .publish]

def notes : Trace := (Trace.start .empty .inMemory).after notesSteps

theorem record_replays_notes :
    ∃ since record, standing? notes.events = some ("notes", since) ∧
      notes.world.stored = .ok (some record) ∧ Replays "notes" since record ∧
      record.commits.map (·.message) = ["first"] ∧ mergedIn since = [1] ∧
      (openedIn since).map (·.id) = [1, 3] ∧
      record.requests = (openedIn since).map fun r =>
        if r.id ∈ mergedIn since then { r with status := .merged } else r := by
  have computed : (standing? notes.events).map (fun p =>
        (p.1, mergedIn p.2, (openedIn p.2).map (·.id))) = some ("notes", [1], [1, 3]) ∧
      notes.world.stored.toOption.join.map (·.commits.map (·.message)) = some ["first"] := by
    decide +kernel
  obtain ⟨⟨name, since⟩, standing, found⟩ := Option.map_eq_some_iff.1 computed.1
  simp only [Prod.mk.injEq] at found
  obtain ⟨rfl, merged, opened⟩ := found
  obtain ⟨record, stored, replays, -, -, settled⟩ :=
    (@record_replays .inMemory rfl notesSteps).2 standing
  have messages := computed.2
  rw [show notes.world.stored = .ok (some record) from stored] at messages
  exact ⟨since, record, standing, stored, replays, Option.some.inj messages, merged, opened,
    settled (by decide)⟩

end GitTutor
