import GitTutor.Proofs.Host.Run

/-!
The ids of pull requests.

The host gives a request the least id that is greater than those in its record and those that it
has counted. It counts on when the record is replaced, and also when a request could not be kept, so
that no id is given twice before the host is reset (`ids_never_reused`), as long as there are
numbers left.
-/

namespace GitTutor

/-- The greatest number that an id can be. -/
def lastId : UInt64 := 0xffffffffffffffff

/-! ### Numbers of 64 bits -/

lemma toNat_max (a b : UInt64) : (max a b).toNat = max a.toNat b.toNat := by
  have hmax : max a b = if a ≤ b then b else a := rfl
  rw [hmax]
  split
  · rename_i below
    have := UInt64.le_iff_toNat_le.1 below
    omega
  · rename_i above
    have := UInt64.lt_iff_toNat_lt.1 (UInt64.not_le.1 above)
    omega

lemma toNat_add_one {a : UInt64} (h : a < lastId) : (a + 1).toNat = a.toNat + 1 := by
  have := UInt64.lt_iff_toNat_lt.1 h
  rw [UInt64.toNat_add, show lastId.toNat = 2 ^ 64 - 1 from rfl] at *
  rw [show (1 : UInt64).toNat = 1 from rfl]
  omega

lemma lt_add_one_of_lt {a : UInt64} (h : a < lastId) : a < a + 1 :=
  UInt64.lt_iff_toNat_lt.2 (toNat_add_one h ▸ Nat.lt_succ_self _)

/-! ### The next id -/

namespace Host

variable {h : Host} {record : Record} {requests : List PullRequest} {r : PullRequest}

lemma greatestId_lt_iff {bound : Nat} (positive : 0 < bound) :
    (greatestId requests).toNat < bound ↔ ∀ r ∈ requests, r.id.toNat < bound := by
  have fold : ∀ greatest : UInt64,
      (requests.foldl (fun greatest r => max greatest r.id) greatest).toNat < bound ↔
        greatest.toNat < bound ∧ ∀ r ∈ requests, r.id.toNat < bound := by
    induction requests with
    | nil => simp
    | cons r rs ih =>
      intro greatest
      rw [List.foldl_cons, ih, toNat_max, Nat.max_lt, List.forall_mem_cons, and_assoc]
  exact (fold 0).trans (and_iff_right positive)

lemma nextRequest_le_nextId (h : Host) (record : Record) : h.nextRequest ≤ h.nextId record := by
  rw [UInt64.le_iff_toNat_le, nextId, toNat_max]
  omega

lemma lt_nextId (room : ∀ r ∈ record.requests, r.id < lastId) (hr : r ∈ record.requests) :
    r.id < h.nextId record := by
  have greatest : greatestId record.requests < lastId := by
    rw [UInt64.lt_iff_toNat_lt, greatestId_lt_iff (by decide)]
    exact fun r hr => UInt64.lt_iff_toNat_lt.1 (room r hr)
  have above := (greatestId_lt_iff (Nat.succ_pos _)).1 (Nat.lt_succ_self _) r hr
  rw [UInt64.lt_iff_toNat_lt, nextId, toNat_max, toNat_add_one greatest]
  omega

end Host

/-! ### Merged requests -/

lemma markMerged_eq_some {id : UInt64} {rs rs' : List PullRequest} {merged : PullRequest}
    (marked : Host.markMerged id rs = some (merged, rs')) :
    ∃ before r after, rs = before ++ r :: after ∧ r.id = id ∧ (∀ s ∈ before, s.id ≠ id) ∧
      merged = { r with status := .merged } ∧ rs' = before ++ merged :: after := by
  induction rs generalizing merged rs' with
  | nil => cases marked
  | cons r rs ih =>
    rw [Host.markMerged] at marked
    split at marked
    · rename_i same
      obtain ⟨rfl, rfl⟩ := Prod.mk.inj (Option.some.inj marked)
      exact ⟨[], r, rs, rfl, same, fun s hs => absurd hs List.not_mem_nil, rfl, rfl⟩
    · rename_i other
      obtain ⟨⟨merged', tail⟩, htail, hp⟩ := Option.map_eq_some_iff.1 marked
      obtain ⟨rfl, rfl⟩ := Prod.mk.inj hp
      obtain ⟨before, r', after, rfl, same, first, rfl, rfl⟩ := ih htail
      exact ⟨r :: before, r', after, rfl, same, List.forall_mem_cons.2 ⟨other, first⟩, rfl, rfl⟩

lemma map_id_of_markMerged {id : UInt64} {rs rs' : List PullRequest} {merged : PullRequest}
    (marked : Host.markMerged id rs = some (merged, rs')) :
    rs'.map (·.id) = rs.map (·.id) := by
  obtain ⟨before, r, after, rfl, -, -, rfl, rfl⟩ := markMerged_eq_some marked
  simp

/-! ### Steps -/

/-- Whether a step would count up to the last number, or opens a request in a record that has it. -/
def Step.overflows (w : World) : Step → Bool
  | .host (.openRequest _ _ _) =>
    match w.host.require with
    | .ok record =>
      !(record.requests.all (·.id < lastId) && decide (w.host.nextId record < lastId))
    | .error _ => false
  | _ => false

/-- Whether a step resets the host. -/
def Step.resets (w : World) : Step → Bool
  | .host .reset => !w.host.store.faults.clear
  | _ => false

lemma Step.room_of_overflows {w : World} {source : String} {target title : Option String}
    {record : Record} (stored : w.host.require = .ok record)
    (room : (Step.host (.openRequest source target title)).overflows w = false) :
    (∀ r ∈ record.requests, r.id < lastId) ∧ w.host.nextId record < lastId := by
  simpa [Step.overflows, stored] using room

namespace World

/-- The requests in the record have ascending ids. -/
def Ascending (w : World) : Prop :=
  ∀ record, w.stored = .ok (some record) → record.requests.Pairwise (·.id < ·.id)

variable {w w' : World} {s : Step} {event : Option Event}

lemma Ascending.of_absent (absent : w.stored = .ok none) : Ascending w := by
  intro record stored
  rw [absent] at stored
  cases stored

lemma ascending_keeping {workspace : Workspace} {h : Host} {record : Record}
    (ascending : record.requests.Pairwise (·.id < ·.id)) :
    Ascending ⟨workspace, h.keeping record⟩ := by
  intro record' stored
  rw [stored_keeping, Except.ok.injEq, Option.some.injEq] at stored
  exact stored ▸ ascending

lemma Ascending.step (ascending : Ascending w) (ending : Ending w s event w')
    (room : s.overflows w = false) : Ascending w' := by
  cases ending with
  | aside _ => exact ascending
  | faults _ => exact ascending
  | counted _ => exact ascending
  | created name => exact ascending_keeping List.Pairwise.nil
  | @pushed _ _ record _ stored _ =>
    have before := ascending record (stored_of_require stored)
    exact ascending_keeping before
  | @opened _ _ _ record request stored id _ =>
    refine ascending_keeping (List.pairwise_append.2 ⟨ascending _ (stored_of_require stored),
      List.pairwise_singleton _ _, fun r hr s hs => ?_⟩)
    rw [List.mem_singleton.1 hs, id]
    exact Host.lt_nextId (Step.room_of_overflows stored room).1 hr
  | merged stored marked =>
    have before := List.pairwise_map.2 (ascending _ (stored_of_require stored))
    rw [← map_id_of_markMerged marked] at before
    exact ascending_keeping (List.pairwise_map.1 before)
  | @published _ record stored _ =>
    have before := ascending record (stored_of_require stored)
    exact ascending_keeping before
  | reset _ => exact .of_absent (stored_cleared _ _)

/-- No step of a run resets the host or counts up to the last number. -/
def steady (w : World) : List Step → Bool
  | [] => true
  | s :: steps => !s.overflows w && !s.resets w && steady (w.step s).2 steps

/-- A merge changes the status of the one request that has the id, and nothing else of the
record. -/
def MergesOne (w : World) : Prop :=
  ∀ {id merged host}, w.host.mergeRequest id = (.ok merged, host) →
    ∃ record before r after, w.stored = .ok (some record) ∧
      record.requests = before ++ r :: after ∧ r.id = id ∧ (∀ s ∈ before ++ after, s.id ≠ id) ∧
      merged = { r with status := .merged } ∧
      host = w.host.keeping { record with requests := before ++ merged :: after }

end World

namespace Trace

variable {t : Trace} {s : Step}

/-- The host has counted beyond every id that it has given. -/
structure Counted (t : Trace) : Prop where
  counts : 0 < t.world.host.nextRequest
  positive : ∀ r ∈ openedIn t.events, 0 < r.id
  beyond : ∀ r ∈ openedIn t.events, r.id < t.world.host.nextRequest
  increasing : (openedIn t.events).Pairwise (·.id < ·.id)

lemma Counted.congr (counted : Counted t) {events : List Event} {w : World}
    (opened : openedIn events = openedIn t.events)
    (next : w.host.nextRequest = t.world.host.nextRequest) : Counted ⟨events, w⟩ where
  counts := next ▸ counted.counts
  positive := opened ▸ counted.positive
  beyond := opened.symm ▸ next.symm ▸ counted.beyond
  increasing := opened ▸ counted.increasing

lemma Counted.lt_nextId (counted : Counted t) (record : Record) {r : PullRequest}
    (hr : r ∈ openedIn t.events) : r.id < t.world.host.nextId record :=
  UInt64.lt_of_lt_of_le (counted.beyond r hr) (t.world.host.nextRequest_le_nextId record)

lemma Counted.nextId_pos (counted : Counted t) (record : Record) :
    0 < t.world.host.nextId record :=
  UInt64.lt_of_lt_of_le counted.counts (t.world.host.nextRequest_le_nextId record)

lemma Counted.counting (counted : Counted t) {record : Record}
    (room : t.world.host.nextId record < lastId) :
    Counted ⟨t.events, ⟨t.world.workspace, t.world.host.counting record⟩⟩ where
  counts := UInt64.lt_trans (counted.nextId_pos record) (lt_add_one_of_lt room)
  positive := counted.positive
  beyond _ hr := UInt64.lt_trans (counted.lt_nextId record hr) (lt_add_one_of_lt room)
  increasing := counted.increasing

/-- **An id that is counted leaves all earlier ones behind**, whether its request is kept or not. -/
lemma Counted.step (counted : Counted t) {event : Option Event} {w : World}
    (ending : Ending t.world s event w) (room : s.overflows t.world = false)
    (stays : s.resets t.world = false) : Counted ⟨event.toList ++ t.events, w⟩ := by
  cases ending with
  | aside _ => exact counted.congr rfl rfl
  | faults _ => exact counted.congr rfl rfl
  | created name => exact counted.congr rfl rfl
  | pushed _ _ => exact counted.congr rfl rfl
  | merged _ _ => exact counted.congr rfl rfl
  | published _ _ => exact counted.congr rfl rfl
  | counted stored => exact counted.counting (Step.room_of_overflows stored room).2
  | @opened _ _ _ record request stored id _ =>
    -- The new request has the id that was just counted, and all others are below it.
    obtain ⟨-, room⟩ := Step.room_of_overflows stored room
    have beyond := counted.counting room
    refine ⟨beyond.counts, ?_, ?_, ?_⟩ <;>
      simp only [Option.toList_some, List.singleton_append, openedIn_opened]
    · intro r hr
      rcases List.mem_append.1 hr with hr | hr
      · exact counted.positive r hr
      · rw [List.mem_singleton.1 hr, id]
        exact counted.nextId_pos record
    · intro r hr
      rcases List.mem_append.1 hr with hr | hr
      · exact beyond.beyond r hr
      · rw [List.mem_singleton.1 hr, id]
        exact lt_add_one_of_lt room
    · refine List.pairwise_append.2 ⟨counted.increasing, List.pairwise_singleton _ _, ?_⟩
      intro r hr s hs
      rw [List.mem_singleton.1 hs, id]
      exact counted.lt_nextId record hr
  | reset works => simp [Step.resets, works] at stays

lemma Counted.start (workspace : Workspace) (store : Store) :
    Counted (Trace.start workspace store) where
  counts := UInt64.lt_iff_toNat_lt.2 Nat.one_pos
  positive := by simp [Trace.start, openedIn]
  beyond := by simp [Trace.start, openedIn]
  increasing := List.Pairwise.nil

lemma after_induction_of_steady {P : Trace → Prop}
    (step : ∀ t s, s.overflows t.world = false → s.resets t.world = false → P t → P (t.next s))
    {t : Trace} {steps : List Step} (steady : t.world.steady steps = true) (h : P t) :
    P (t.after steps) := by
  induction steps generalizing t with
  | nil => exact h
  | cons s steps ih =>
    simp only [World.steady, Bool.and_eq_true, Bool.not_eq_true'] at steady
    obtain ⟨⟨room, stays⟩, steady⟩ := steady
    exact ih steady (step t s room stays h)

lemma counted_after {workspace : Workspace} {store : Store} {steps : List Step}
    (steady : World.steady ⟨workspace, .new store⟩ steps = true) :
    Counted ((Trace.start workspace store).after steps) :=
  after_induction_of_steady
    (fun t s room stays counted => counted.step (World.ends_step t.world s) room stays) steady
    (.start workspace store)

lemma ascending_after {t : Trace} {steps : List Step} (steady : t.world.steady steps = true)
    (ascending : t.world.Ascending) : (t.after steps).world.Ascending :=
  after_induction_of_steady (P := fun t => t.world.Ascending)
    (fun t s room _ ascending => ascending.step (World.ends_step t.world s) room) steady ascending

/-- The ids of a run: those that were given ascend, and the one that is given next is greater than
all of them and than those in the record. -/
structure NeverReused (t : Trace) : Prop where
  positive : ∀ r ∈ openedIn t.events, 0 < r.id
  increasing : (openedIn t.events).Pairwise (·.id < ·.id)
  next : ∀ {source target title request host},
    (Step.host (.openRequest source target title)).overflows t.world = false →
    t.world.host.openRequest source target title = (.ok request, host) →
      0 < request.id ∧ (∀ r ∈ openedIn t.events, r.id < request.id) ∧
        ∃ record, t.world.stored = .ok (some record) ∧ ∀ r ∈ record.requests, r.id < request.id

end Trace

namespace Host

variable {h h' : Host} {request merged : PullRequest}

lemma eq_keeping_of_keep {α : Type} {record : Record} {a answer : α}
    (kept : h.keep record a = (.ok answer, h')) : answer = a ∧ h' = h.keeping record := by
  rcases World.keep_cases h record a with hk | ⟨e, hk⟩
  · rw [hk] at kept
    cases kept
    exact ⟨rfl, rfl⟩
  · rw [hk] at kept
    cases kept

lemma id_of_openRequest {source : String} {target title : Option String}
    (opened : h.openRequest source target title = (.ok request, h')) :
    ∃ record, h.require = .ok record ∧ request.id = h.nextId record := by
  rw [openRequest] at opened
  cases stored : h.require with
  | error e =>
    rw [stored] at opened
    cases opened
  | ok record =>
    rw [stored] at opened
    exact ⟨record, rfl, congrArg (·.id) (eq_keeping_of_keep opened).1⟩

lemma marked_of_mergeRequest {id : UInt64} (done : h.mergeRequest id = (.ok merged, h')) :
    ∃ record requests, h.require = .ok record ∧
      markMerged id record.requests = some (merged, requests) ∧
      h' = h.keeping { record with requests } := by
  rw [mergeRequest] at done
  cases stored : h.require with
  | error e =>
    rw [stored] at done
    cases done
  | ok record =>
    rw [stored] at done
    simp only at done
    cases marked : markMerged id record.requests with
    | none =>
      rw [marked] at done
      cases done
    | some p =>
      rw [marked] at done
      obtain ⟨rfl, rfl⟩ := eq_keeping_of_keep done
      exact ⟨record, p.2, rfl, marked, rfl⟩

end Host

lemma World.Ascending.mergesOne {w : World} (ascending : w.Ascending) : w.MergesOne := by
  intro id merged host done
  obtain ⟨record, requests, stored, marked, rfl⟩ := Host.marked_of_mergeRequest done
  obtain ⟨before, r, after, split, same, first, rfl, rfl⟩ := markMerged_eq_some marked
  have loaded := stored_of_require stored
  refine ⟨record, before, r, after, loaded, split, same, ?_, rfl, rfl⟩
  intro s hs
  rcases List.mem_append.1 hs with hs | hs
  · exact first s hs
  · have ordered := ascending record loaded
    rw [split, List.pairwise_append, List.pairwise_cons] at ordered
    exact same ▸ (UInt64.ne_of_lt (ordered.2.1.1 s hs)).symm

lemma Trace.Counted.neverReused {t : Trace} (counted : t.Counted) : t.NeverReused where
  positive := counted.positive
  increasing := counted.increasing
  next := by
    intro source target title request host room opened
    obtain ⟨record, stored, id⟩ := Host.id_of_openRequest opened
    have roomy := (Step.room_of_overflows stored room).1
    refine ⟨id ▸ counted.nextId_pos record, fun r hr => id ▸ counted.lt_nextId record hr, record,
      World.stored_of_require stored, fun r hr => id ▸ Host.lt_nextId roomy hr⟩

/-- **No id is given twice**, in whatever way the record is replaced and the store fails, until the
host is reset. A record whose ids ascend keeps them so, and a merge then concerns one request
alone. -/
theorem ids_never_reused (workspace : Workspace) (store : Store) {steps : List Step}
    (steady : World.steady ⟨workspace, .new store⟩ steps = true) :
    ((Trace.start workspace store).after steps).NeverReused ∧
      ((Trace.start workspace store).world.Ascending →
        ((Trace.start workspace store).after steps).world.Ascending ∧
          ((Trace.start workspace store).after steps).world.MergesOne) := by
  refine ⟨(Trace.counted_after steady).neverReused, fun ascending => ?_⟩
  have ascends := Trace.ascending_after steady ascending
  exact ⟨ascends, ascends.mergesOne⟩

/-- A store with a record of two requests, whose ids ascend. -/
def storeOfTwo : Store where
  medium := .memory <| some { Record.new "notes" with
    requests := [⟨2, "a", "main", "first", .merged⟩, ⟨5, "b", "main", "second", .opened⟩] }
  faults := .none

/-- A request is opened, the next one is lost, and two are opened in a record that is new. -/
def withLostRequest : List Step :=
  let request := .host (.openRequest "c" none none)
  [request, .faults ⟨false, true, false⟩, request, .faults .none, .host (.create "more"), request,
    request]

/-- What that comes to. -/
def afterLoss : Trace := (Trace.start .empty storeOfTwo).after withLostRequest

theorem ids_never_reused_after_loss :
    World.steady ⟨.empty, .new storeOfTwo⟩ withLostRequest = true ∧
      (openedIn afterLoss.events).map (·.id) = [6, 8, 9] ∧
      (afterLoss.world.host.openRequest "d" none none).1.toOption.map (·.id) = some 10 ∧
      afterLoss.NeverReused ∧ afterLoss.world.Ascending ∧ afterLoss.world.MergesOne := by
  have steady : World.steady ⟨.empty, .new storeOfTwo⟩ withLostRequest = true := by decide +kernel
  have ascending : (Trace.start .empty storeOfTwo).world.Ascending := by
    intro record stored
    cases stored
    decide
  obtain ⟨unique, merges⟩ := ids_never_reused .empty storeOfTwo steady
  exact ⟨steady, by decide +kernel, by decide +kernel, unique, merges ascending⟩

/-! ### Runs from an empty store -/

/-- Whether a step is to open a request. -/
def Step.opens : Step → Bool
  | .host (.openRequest _ _ _) => true
  | _ => false

namespace World

variable {w w' : World} {s : Step} {event : Option Event} {record : Record}

/-- The host has counted beyond the ids of its record. -/
structure Ahead (w : World) : Prop where
  counts : 0 < w.host.nextRequest
  beyond : ∀ {record}, w.stored = .ok (some record) →
    ∀ r ∈ record.requests, r.id < w.host.nextRequest

lemma Ahead.of_absent (counts : 0 < w.host.nextRequest) (absent : w.stored = .ok none) :
    Ahead w := by
  refine ⟨counts, fun stored => ?_⟩
  rw [absent] at stored
  cases stored

lemma Ahead.keeping {workspace : Workspace} {h : Host} (counts : 0 < h.nextRequest)
    (beyond : ∀ r ∈ record.requests, r.id < h.nextRequest) :
    Ahead ⟨workspace, h.keeping record⟩ := by
  refine ⟨counts, fun {record'} stored => ?_⟩
  rw [stored_keeping, Except.ok.injEq, Option.some.injEq] at stored
  exact stored ▸ beyond

lemma Ahead.nextId_eq (ahead : Ahead w) (stored : w.host.require = .ok record) :
    w.host.nextId record = w.host.nextRequest := by
  have behind : (Host.greatestId record.requests).toNat < w.host.nextRequest.toNat :=
    (Host.greatestId_lt_iff (UInt64.lt_iff_toNat_lt.1 ahead.counts)).2
      fun r hr => UInt64.lt_iff_toNat_lt.1 (ahead.beyond (stored_of_require stored) r hr)
  have last : Host.greatestId record.requests < lastId := by
    rw [UInt64.lt_iff_toNat_lt]
    exact Nat.lt_of_lt_of_le behind (Nat.le_of_lt_succ w.host.nextRequest.toNat_lt)
  rw [← UInt64.toNat_inj, Host.nextId, toNat_max, toNat_add_one last]
  exact Nat.max_eq_left behind

lemma Ahead.room (ahead : Ahead w) (last : s.opens = true → w.host.nextRequest < lastId) :
    s.overflows w = false := by
  cases s with
  | workspace op => rfl
  | faults faults => rfl
  | host op =>
    cases op with
    | openRequest source target title =>
      cases stored : w.host.require with
      | error e => simp [Step.overflows, stored]
      | ok record =>
        have all : ∀ r ∈ record.requests, r.id < lastId := fun r hr =>
          UInt64.lt_trans (ahead.beyond (stored_of_require stored) r hr) (last rfl)
        simpa [Step.overflows, stored, ahead.nextId_eq stored, last rfl] using all
    | _ => rfl

lemma Ahead.step (ahead : Ahead w) (ending : Ending w s event w')
    (last : s.opens = true → w.host.nextRequest < lastId) :
    Ahead w' ∧ w'.host.nextRequest.toNat ≤ w.host.nextRequest.toNat + s.opens.toNat := by
  have beyond {record : Record} (stored : w.host.require = .ok record) :=
    ahead.beyond (stored_of_require stored)
  have next {record : Record} (stored : w.host.require = .ok record) :
      (w.host.counting record).nextRequest = w.host.nextRequest + 1 := by
    rw [Host.counting, ahead.nextId_eq stored]
  have grows (opens : s.opens = true) : w.host.nextRequest < w.host.nextRequest + 1 :=
    lt_add_one_of_lt (last opens)
  cases ending with
  | aside _ => exact ⟨⟨ahead.counts, ahead.beyond⟩, Nat.le_add_right _ _⟩
  | faults _ => exact ⟨⟨ahead.counts, ahead.beyond⟩, Nat.le_add_right _ _⟩
  | created name => exact ⟨.keeping ahead.counts (by simp [Record.new]), Nat.le_add_right _ _⟩
  | @pushed _ _ record _ stored _ =>
    have before := beyond stored
    exact ⟨.keeping ahead.counts before, Nat.le_add_right _ _⟩
  | @published _ record stored _ =>
    have before := beyond stored
    exact ⟨.keeping ahead.counts before, Nat.le_add_right _ _⟩
  | @merged id record merged requests stored marked =>
    refine ⟨.keeping ahead.counts fun r hr => ?_, Nat.le_add_right _ _⟩
    have same : r.id ∈ record.requests.map (·.id) :=
      map_id_of_markMerged marked ▸ List.mem_map_of_mem hr
    obtain ⟨r', hr', hid⟩ := List.mem_map.1 same
    exact hid ▸ beyond stored r' hr'
  | counted stored =>
    refine ⟨⟨?_, fun loaded r hr => ?_⟩, ?_⟩ <;> simp only [next stored]
    · exact UInt64.lt_trans ahead.counts (grows rfl)
    · exact UInt64.lt_trans (ahead.beyond loaded r hr) (grows rfl)
    · exact Nat.le_of_eq (toNat_add_one (last rfl))
  | @opened _ _ _ record request stored id _ =>
    refine ⟨.keeping ?_ fun r hr => ?_, ?_⟩ <;> simp only [Host.keeping, next stored]
    · exact UInt64.lt_trans ahead.counts (grows rfl)
    · rcases List.mem_append.1 hr with hr | hr
      · exact UInt64.lt_trans (beyond stored r hr) (grows rfl)
      · rw [List.mem_singleton.1 hr, id, ahead.nextId_eq stored]
        exact grows rfl
    · exact Nat.le_of_eq (toNat_add_one (last rfl))
  | reset _ =>
    -- The count starts over, with no record left to be ahead of.
    refine ⟨.of_absent (UInt64.lt_iff_toNat_lt.2 Nat.one_pos) (stored_cleared _ _), ?_⟩
    exact Nat.le_trans (UInt64.lt_iff_toNat_lt.1 ahead.counts) (Nat.le_add_right _ _)

end World

/-- While the host is ahead and does not count through all numbers, the ids of its record ascend,
whatever is created and reset. -/
lemma Trace.ascending_of_few {t : Trace} {steps : List Step} (ahead : t.world.Ahead)
    (ascending : t.world.Ascending)
    (few : t.world.host.nextRequest.toNat + steps.countP Step.opens ≤ lastId.toNat) :
    (t.after steps).world.Ascending := by
  -- What is left of the numbers suffices for the requests that are still to come.
  induction steps generalizing t with
  | nil => exact ascending
  | cons s steps ih =>
    have ending := World.ends_step t.world s
    rw [List.countP_cons] at few
    have last : s.opens = true → t.world.host.nextRequest < lastId := by
      intro opens
      rw [if_pos opens] at few
      exact UInt64.lt_iff_toNat_lt.2 (by omega)
    obtain ⟨ahead', counts⟩ := ahead.step ending last
    refine ih (t := t.next s) ahead' (ascending.step ending (ahead.room last)) ?_
    refine Nat.le_trans (Nat.add_le_add_right counts _) ?_
    cases hs : s.opens <;> simp only [hs, Bool.toNat_false, Bool.toNat_true, if_true] at few ⊢ <;>
      omega

end GitTutor
