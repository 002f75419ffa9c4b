import GitTutor.CommandLine.Run
import GitTutor.Proofs.Host.Run

/-!
Stores that cannot be told apart.

Two stores agree if the same calls of them fail and they load the same. It does not matter then in
which form they keep the record: whatever is asked of two such stores, or of two hosts over them,
the answers are the same and the stores still agree. What holds of every single answer holds of
whole conversations by one induction (`Alike.converse`).
-/

namespace GitTutor

/-! ### Conversations -/

section

variable {σ ι ο : Type}

/-- What a system answers to one input after the other, and what becomes of it. -/
def converse (respond : σ → ι → ο × σ) (s : σ) : List ι → List ο × σ
  | [] => ([], s)
  | i :: is =>
    let (o, s) := respond s i
    let (os, s) := converse respond s is
    (o :: os, s)

/-- The same answer, with states that are related. -/
structure Alike (R : σ → σ → Prop) (a b : ο × σ) : Prop where
  answer : b.1 = a.1
  next : R a.2 b.2

/-- If no single answer tells related states apart, no conversation does. -/
lemma Alike.converse {respond : σ → ι → ο × σ} {R : σ → σ → Prop}
    (step : ∀ {s t : σ}, R s t → ∀ i, Alike R (respond s i) (respond t i)) {s t : σ} (h : R s t)
    (is : List ι) : Alike R (converse respond s is) (converse respond t is) := by
  induction is generalizing s t with
  | nil => exact ⟨rfl, h⟩
  | cons i is ih =>
    obtain ⟨answer, next⟩ := step h i
    obtain ⟨answers, last⟩ := ih next
    exact ⟨congrArg₂ List.cons answer answers, last⟩

end

/-! ### Stores -/

/-- A document is not empty, and so it is still there when it is opened again. -/
def Medium.Lasts : Medium → Prop
  | .document (some text) => text.isEmpty = false
  | _ => True

lemma Record.isEmpty_document (record : Record) : record.document.isEmpty = false := by
  have start : record.document.toList ≠ [] := by
    rw [Record.document, Json.toLine, String.toList_ofList]
    exact List.cons_ne_nil _ _
  by_contra empty
  rw [Bool.not_eq_false, String.isEmpty_iff] at empty
  rw [empty] at start
  exact start rfl

lemma Medium.lasts_save (m : Medium) (record : Record) : (m.save record).Lasts := by
  cases m with
  | memory old => trivial
  | document old => exact record.isEmpty_document

lemma Medium.lasts_clear (m : Medium) : m.clear.Lasts := by
  cases m <;> trivial

namespace Store

variable {s t : Store}

/-- The same calls fail, the same is loaded, and neither store loses its document. -/
structure Agrees (s t : Store) : Prop where
  faults : t.faults = s.faults
  loads : t.medium.load = s.medium.load
  lasts : s.medium.Lasts ∧ t.medium.Lasts

lemma Agrees.load (h : s.Agrees t) : t.load = s.load := by
  rw [Store.load, Store.load, h.faults, h.loads]

/-- The store with another record. -/
def holding (s : Store) (record : Record) : Store := { s with medium := s.medium.save record }

/-- The store without a record. -/
def emptied (s : Store) : Store := { s with medium := s.medium.clear }

lemma save_eq (s : Store) (record : Record) :
    s.save record = if s.faults.save then .error (.failed "save") else .ok (s.holding record) :=
  rfl

lemma clear_eq (s : Store) :
    s.clear = if s.faults.clear then .error (.failed "clear") else .ok s.emptied :=
  rfl

lemma agrees_holding (faults : t.faults = s.faults) (record : Record) :
    (s.holding record).Agrees (t.holding record) where
  faults := faults
  loads := (Medium.load_save _ _).trans (Medium.load_save _ _).symm
  lasts := ⟨s.medium.lasts_save record, t.medium.lasts_save record⟩

lemma agrees_emptied (faults : t.faults = s.faults) : s.emptied.Agrees t.emptied where
  faults := faults
  loads := (Medium.load_clear _).trans (Medium.load_clear _).symm
  lasts := ⟨s.medium.lasts_clear, t.medium.lasts_clear⟩

lemma agrees_document (record : Option Record) (faults : Faults) :
    Agrees ⟨.memory record, faults⟩ ⟨.document (record.map Record.document), faults⟩ := by
  cases record with
  | none => exact ⟨rfl, rfl, trivial, trivial⟩
  | some record =>
    have read : (Medium.document (some record.document)).load = .ok (some record) := by
      rw [Medium.load, Record.ofDocument?_document]
    exact ⟨rfl, read, trivial, record.isEmpty_document⟩

/-- The store once its document has been closed and opened again. -/
def reopened (s : Store) : Store :=
  match s.medium with
  | .memory _ => s
  | .document text => { CommandLine.storeOfDocument (text.getD "") with faults := s.faults }

lemma reopened_eq (lasts : s.medium.Lasts) : s.reopened = s := by
  obtain ⟨medium, faults⟩ := s
  cases medium with
  | memory record => rfl
  | document text =>
    cases text with
    | none => rfl
    | some text =>
      have full : text.isEmpty = false := lasts
      simp only [reopened, Option.getD_some, CommandLine.storeOfDocument, full, asDocument,
        Bool.false_eq_true, if_false]

/-- What can be asked of a store. -/
inductive Input where
  | load
  | save (record : Record)
  | clear
  | reopen
  | faults (faults : Faults)

inductive Output where
  | loaded (result : Except StoreError (Option Record))
  | done (result : Except StoreError Unit)

/-- A call that fails leaves the store as it was. -/
def settle (s : Store) : Except StoreError Store → Output × Store
  | .ok s => (.done (.ok ()), s)
  | .error e => (.done (.error e), s)

def respond (s : Store) : Input → Output × Store
  | .load => (.loaded s.load, s)
  | .save record => s.settle (s.save record)
  | .clear => s.settle s.clear
  | .reopen => (.done (.ok ()), s.reopened)
  | .faults faults => (.done (.ok ()), { s with faults })

/-- **A store answers as those that agree with it.** -/
lemma Agrees.respond (h : s.Agrees t) (i : Input) : Alike Agrees (s.respond i) (t.respond i) := by
  cases i with
  | load => exact ⟨congrArg Output.loaded h.load, h⟩
  | save record =>
    rw [Store.respond, Store.respond, save_eq, save_eq, h.faults]
    cases s.faults.save with
    | true => exact ⟨rfl, h⟩
    | false => exact ⟨rfl, agrees_holding h.faults record⟩
  | clear =>
    rw [Store.respond, Store.respond, clear_eq, clear_eq, h.faults]
    cases s.faults.clear with
    | true => exact ⟨rfl, h⟩
    | false => exact ⟨rfl, agrees_emptied h.faults⟩
  | reopen =>
    rw [Store.respond, Store.respond, reopened_eq h.lasts.1, reopened_eq h.lasts.2]
    exact ⟨rfl, h⟩
  | faults faults => exact ⟨rfl, rfl, h.loads, h.lasts⟩

end Store

/-! ### Hosts -/

namespace Host

variable {α : Type} {h k : Host}

/-- The stores agree, and so do the counts of pull requests. -/
structure Agrees (h k : Host) : Prop where
  store : h.store.Agrees k.store
  nextRequest : k.nextRequest = h.nextRequest

lemma keep_eq (h : Host) (record : Record) (answer : α) :
    h.keep record answer =
      if h.store.faults.save then (.error (.store (.failed "save")), h)
      else (.ok answer, h.keeping record) := by
  rw [keep, Store.save]
  cases h.store.faults.save <;> rfl

lemma reset_eq (h : Host) :
    h.reset =
      if h.store.faults.clear then (.error (.store (.failed "clear")), h)
      else (.ok (), h.cleared) := by
  rw [reset, Store.clear]
  cases h.store.faults.clear <;> rfl

namespace Agrees

lemma keeping (agrees : h.Agrees k) (record : Record) :
    (h.keeping record).Agrees (k.keeping record) :=
  ⟨Store.agrees_holding agrees.store.faults record, agrees.nextRequest⟩

lemma failing (agrees : h.Agrees k) (faults : Faults) :
    (h.failing faults).Agrees (k.failing faults) :=
  ⟨⟨rfl, agrees.store.loads, agrees.store.lasts⟩, agrees.nextRequest⟩

lemma record? (agrees : h.Agrees k) : k.record? = h.record? := by
  rw [Host.record?, Host.record?, agrees.store.load]

lemma require (agrees : h.Agrees k) : k.require = h.require := by
  rw [Host.require, Host.require, agrees.record?]

lemma keep (agrees : h.Agrees k) (record : Record) (answer : α) :
    Alike Agrees (h.keep record answer) (k.keep record answer) := by
  rw [keep_eq, keep_eq, agrees.store.faults]
  cases h.store.faults.save with
  | true => exact ⟨rfl, agrees⟩
  | false => exact ⟨rfl, agrees.keeping record⟩

lemma reset (agrees : h.Agrees k) : Alike Agrees h.reset k.reset := by
  rw [reset_eq, reset_eq, agrees.store.faults]
  cases h.store.faults.clear with
  | true => exact ⟨rfl, agrees⟩
  | false => exact ⟨rfl, Store.agrees_emptied agrees.store.faults, rfl⟩

lemma push (agrees : h.Agrees k) (w : Workspace) (remote branch : String) :
    Alike Agrees (h.push w remote branch) (k.push w remote branch) := by
  rw [Host.push, Host.push, agrees.require]
  by_cases other : remote ≠ origin
  · rw [if_pos other, if_pos other]
    exact ⟨rfl, agrees⟩
  rw [if_neg other, if_neg other]
  cases h.require with
  | error e => exact ⟨rfl, agrees⟩
  | ok record =>
    cases w.log branch with
    | error e => exact ⟨rfl, agrees⟩
    | ok log => exact agrees.keep _ _

lemma pull (agrees : h.Agrees k) (w : Workspace) (remote branch : String) :
    k.pull w remote branch = h.pull w remote branch := by
  rw [Host.pull, Host.pull, agrees.require]

lemma cloneInto (agrees : h.Agrees k) (w : Workspace) (url : String) :
    k.cloneInto w url = h.cloneInto w url := by
  rw [Host.cloneInto, Host.cloneInto, agrees.record?]

lemma openRequest (agrees : h.Agrees k) (source : String) (target title : Option String) :
    Alike Agrees (h.openRequest source target title) (k.openRequest source target title) := by
  rw [Host.openRequest, Host.openRequest, agrees.require]
  cases h.require with
  | error e => exact ⟨rfl, agrees⟩
  | ok record =>
    simp only [agrees.nextRequest]
    refine Agrees.keep ?_ _ _
    exact ⟨agrees.store, rfl⟩

lemma requests (agrees : h.Agrees k) : k.requests = h.requests := by
  rw [Host.requests, Host.requests, agrees.require]

lemma mergeRequest (agrees : h.Agrees k) (id : UInt64) :
    Alike Agrees (h.mergeRequest id) (k.mergeRequest id) := by
  rw [Host.mergeRequest, Host.mergeRequest, agrees.require]
  cases h.require with
  | error e => exact ⟨rfl, agrees⟩
  | ok record =>
    simp only
    cases markMerged id record.requests with
    | none => exact ⟨rfl, agrees⟩
    | some p => exact agrees.keep _ _

lemma publish (agrees : h.Agrees k) : Alike Agrees h.publish k.publish := by
  rw [Host.publish, Host.publish, agrees.require]
  cases h.require with
  | error e => exact ⟨rfl, agrees⟩
  | ok record =>
    simp only
    by_cases bare : record.commits.isEmpty = true
    · rw [if_pos bare, if_pos bare]
      exact ⟨rfl, agrees⟩
    · rw [if_neg bare, if_neg bare]
      exact agrees.keep _ _

lemma status (agrees : h.Agrees k) : k.status = h.status := by
  rw [Host.status, Host.status, agrees.record?]

end Agrees

end Host

/-! ### Workspaces next to a host -/

namespace World

/-- What can be asked of a workspace and its host. -/
inductive Input where
  | step (s : Step)
  | record
  | requests
  | status
  | reopen

inductive Output where
  | workspace (result : Except RepoError Workspace.Answer)
  | kept (result : Except HostError Record)
  | stored (result : Except HostError (Option Record))
  | pulled (result : Except HostError PullReport)
  | request (result : Except HostError PullRequest)
  | requests (result : Except HostError (List PullRequest))
  | pages (result : Except HostError PagesReport)
  | status (result : Except HostError (Option String))
  | reset (result : Except HostError Unit)
  | silent

/-- What an operation of the host comes to. -/
def result (w : World) : Host.Operation → Output
  | .create name => .kept (w.host.create name).1
  | .push remote branch => .kept (w.host.push w.workspace remote branch).1
  | .pull remote branch => .pulled (w.host.pull w.workspace remote branch)
  | .clone url => .kept (w.host.cloneInto w.workspace url).1
  | .openRequest source target title => .request (w.host.openRequest source target title).1
  | .mergeRequest id => .request (w.host.mergeRequest id).1
  | .publish | .republish => .pages w.host.publish.1
  | .reset => .reset w.host.reset.1

def respond (w : World) : Input → Output × World
  | .step (.workspace op) => (.workspace (op.perform w.workspace).1, (w.step (.workspace op)).2)
  | .step (.host op) => (w.result op, (w.step (.host op)).2)
  | .step (.faults faults) => (.silent, (w.step (.faults faults)).2)
  | .record => (.stored w.host.record?, w)
  | .requests => (.requests w.host.requests, w)
  | .status => (.status w.host.status, w)
  | .reopen => (.silent, { w with host := { w.host with store := w.host.store.reopened } })

/-- The same workspace, and hosts that agree. -/
structure Agrees (w v : World) : Prop where
  workspace : v.workspace = w.workspace
  host : w.host.Agrees v.host

variable {α : Type} {w v : World}

lemma Agrees.settle (agrees : w.Agrees v) (event : α → Event) {a b : Except HostError α × Host}
    (alike : Alike Host.Agrees a b) : (w.settle event a).2.Agrees (v.settle event b).2 := by
  obtain ⟨answer, host⟩ := a
  obtain ⟨answer', host'⟩ := b
  obtain ⟨same, hosts⟩ := alike
  obtain rfl : answer' = answer := same
  cases answer' <;> exact ⟨agrees.workspace, hosts⟩

lemma Agrees.operation (agrees : w.Agrees v) (op : Host.Operation) :
    Alike Agrees (w.result op, (w.perform op).2) (v.result op, (v.perform op).2) := by
  cases op with
  | create name =>
    have alike := agrees.host.keep (.new name) (Record.new name)
    exact ⟨congrArg Output.kept alike.answer, agrees.settle _ alike⟩
  | push remote branch =>
    have alike := agrees.host.push w.workspace remote branch
    rw [result, result, perform, perform, agrees.workspace]
    exact ⟨congrArg Output.kept alike.answer, agrees.settle _ alike⟩
  | pull remote branch =>
    rw [result, result, agrees.workspace, agrees.host.pull]
    exact ⟨rfl, agrees⟩
  | clone url =>
    rw [result, result, perform, perform, agrees.workspace, agrees.host.cloneInto]
    exact ⟨rfl, rfl, agrees.host⟩
  | openRequest source target title =>
    have alike := agrees.host.openRequest source target title
    exact ⟨congrArg Output.request alike.answer, agrees.settle _ alike⟩
  | mergeRequest id =>
    have alike := agrees.host.mergeRequest id
    exact ⟨congrArg Output.request alike.answer, agrees.settle _ alike⟩
  | publish | republish =>
    exact ⟨congrArg Output.pages agrees.host.publish.answer, agrees.settle _ agrees.host.publish⟩
  | reset =>
    exact ⟨congrArg Output.reset agrees.host.reset.answer, agrees.settle _ agrees.host.reset⟩

/-- **A host answers as those that agree with it.** -/
lemma Agrees.respond (agrees : w.Agrees v) (i : Input) :
    Alike Agrees (w.respond i) (v.respond i) := by
  cases i with
  | step s =>
    cases s with
    | workspace op =>
      rw [World.respond, World.respond, step, step, agrees.workspace]
      exact ⟨rfl, rfl, agrees.host⟩
    | host op => exact agrees.operation op
    | faults faults => exact ⟨rfl, agrees.workspace, agrees.host.failing faults⟩
  | record => exact ⟨congrArg Output.stored agrees.host.record?, agrees⟩
  | requests => exact ⟨congrArg Output.requests agrees.host.requests, agrees⟩
  | status => exact ⟨congrArg Output.status agrees.host.status, agrees⟩
  | reopen =>
    obtain ⟨lasts, lasts'⟩ := agrees.host.store.lasts
    rw [World.respond, World.respond, Store.reopened_eq lasts, Store.reopened_eq lasts']
    exact ⟨rfl, agrees⟩

end World

/-- **Documents serve as well as records.** The document of a record is read as the record. So a
store that keeps documents answers whatever is asked of it as a store that keeps records, even if
it is opened again in between, and nothing that is done with a host and a workspace tells the two
apart. -/
theorem documents_serve_as_records :
    (∀ record : Record, Record.ofDocument? record.document = some record) ∧
      ∀ (record : Option Record) (faults : Faults),
        let kept : Store := ⟨.memory record, faults⟩
        let written : Store := ⟨.document (record.map Record.document), faults⟩
        (∀ inputs, (converse Store.respond written inputs).1 =
          (converse Store.respond kept inputs).1) ∧
        ∀ (workspace : Workspace) (inputs : List World.Input),
          (converse World.respond ⟨workspace, .new written⟩ inputs).1 =
              (converse World.respond ⟨workspace, .new kept⟩ inputs).1 ∧
            (converse World.respond ⟨workspace, .new written⟩ inputs).2.workspace =
              (converse World.respond ⟨workspace, .new kept⟩ inputs).2.workspace := by
  refine ⟨Record.ofDocument?_document, fun record faults => ?_⟩
  intro kept written
  have stores : kept.Agrees written := Store.agrees_document record faults
  refine ⟨fun inputs => (Alike.converse Store.Agrees.respond stores inputs).answer, ?_⟩
  intro workspace inputs
  have worlds : World.Agrees ⟨workspace, .new kept⟩ ⟨workspace, .new written⟩ :=
    ⟨rfl, stores, rfl⟩
  obtain ⟨answers, last⟩ := Alike.converse World.Agrees.respond worlds inputs
  exact ⟨answers, last.workspace⟩

end GitTutor
