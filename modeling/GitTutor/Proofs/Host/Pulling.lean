import GitTutor.Proofs.Host.Run
import GitTutor.Proofs.Workspace.Growth
import Mathlib.Data.Set.Card
import Mathlib.Tactic.Common

/-!
Pulls after a push.

A push leaves the log of a commit in the record. From then on the history may grow by any steps, but
the log of that commit stays what it was, so that the record still has it (`World.Mirrors`) until
another one takes its place or the workspace is started over. A pull looks for the commits of that
log in the log of the commit that is checked out, wherever this one is by then.
-/

namespace GitTutor

/-! ### What the head lacks -/

open History

namespace Repository

variable {r r' : Repository} {c tip : CommitId}

/-- Parent links come to a commit from the one that is checked out. -/
def HeadLeads (r : Repository) (id : CommitId) : Prop :=
  ∃ tip, r.headId = some tip ∧ Leads r.history tip id

/-- What the commit `c` leads to and the one that is checked out does not. -/
def lacking (r : Repository) (c : CommitId) : Set CommitId :=
  {id | Leads r.history c id ∧ ¬r.HeadLeads id}

lemma headLeads_iff (htip : r.headId = some tip) {id : CommitId} :
    r.HeadLeads id ↔ Leads r.history tip id := by
  simp only [HeadLeads, htip, Option.some.injEq, exists_eq_left']

lemma lacking_eq_empty_iff : r.lacking c = ∅ ↔ r.HeadLeads c := by
  rw [Set.eq_empty_iff_forall_notMem]
  constructor
  · intro none
    by_contra beyond
    exact none c ⟨Leads.refl _ c, beyond⟩
  · rintro ⟨tip, htip, hl⟩ id ⟨hid, beyond⟩
    exact beyond ⟨tip, htip, hl.trans hid⟩

lemma lacking_subset (hg : r.history.Grown) (hg' : r'.history.Grown)
    (grows : r.history ⊆ r'.history) (known : c ∈ r.history.ids)
    (onward : ∀ {tip}, r.headId = some tip → r'.HeadLeads tip) : r'.lacking c ⊆ r.lacking c := by
  rintro id ⟨hl, beyond⟩
  refine ⟨(hg.leads_iff_of_subset hg' grows known).1 hl, ?_⟩
  rintro ⟨tip, htip, hid⟩
  obtain ⟨tip', htip', hback⟩ := onward htip
  exact beyond ⟨tip', htip', hback.trans (hid.mono grows)⟩

/-- The commits of one log that are not in another. -/
def missing (r : Repository) (c tip : CommitId) : List Commit :=
  (r.history.log c).filter fun x => x ∉ r.history.log tip

lemma encard_lacking (hg : r.history.Grown) (known : c ∈ r.history.ids)
    (htip : r.headId = some tip) : (r.lacking c).encard = (r.missing c tip).length := by
  have members : r.lacking c = {id | id ∈ (r.missing c tip).map (·.id)} := by
    ext id
    simp only [lacking, Set.mem_ofPred_eq, headLeads_iff htip, missing, List.mem_map,
      List.mem_filter, decide_eq_true_eq, mem_log_iff hg]
    constructor
    · rintro ⟨hl, beyond⟩
      obtain ⟨x, hx, rfl⟩ := mem_ids_iff.1 (hg.mem_of_leads known hl)
      exact ⟨x, ⟨⟨hx, hl⟩, fun listed => beyond listed.2⟩, rfl⟩
    · rintro ⟨x, ⟨⟨hx, hl⟩, unlisted⟩, rfl⟩
      exact ⟨hl, fun hback => unlisted ⟨hx, hback⟩⟩
  have distinct : ((r.missing c tip).map (·.id)).Nodup :=
    hg.nodup_ids.sublist ((List.filter_sublist.trans (log_sublist _ _)).map _)
  rw [members, ← List.coe_toFinset, Set.encard_coe_eq_coe_finsetCard,
    List.toFinset_card_of_nodup distinct, List.length_map]

lemma headLeads_of_record {now : Int64} {tree : Tree} {parents : List CommitId} {message : String}
    {author : Signature} {id parent : CommitId}
    (recorded : r.record now tree parents message author = (id, r')) (hg : r.history.Grown)
    (fresh : id ∉ r.history.ids) (hp : parent ∈ parents) : r'.HeadLeads parent := by
  obtain ⟨c, rfl, hc, rfl⟩ := record_eq hg recorded fresh
  have hparents : c.parents = parents := congrArg (·.parents) hc
  refine ⟨c.id, headId_advance, ?_⟩
  rw [history_advance]
  exact Leads.parent_of_front (hparents ▸ hp)

end Repository

/-! ### Commits and merges -/

namespace Workspace

open Repository

variable {w w' : Workspace} {r r' : Repository}

/-- Whether an operation goes on from the commit that is checked out. -/
def Operation.BuildsOnHead : Operation → Prop
  | .commit .. | .merge .. => True
  | _ => False

lemma Transition.headLeads {op : Operation} {answer : Except RepoError Answer}
    (ht : Transition w op answer w') (hs : Sound w)
    (fresh : ∀ id ∈ Answer.newId answer, id ∉ w.ids) (builds : op.BuildsOnHead)
    (hr : w.repository = some r) (hr' : w'.repository = some r') {tip : CommitId}
    (htip : r.headId = some tip) : r'.HeadLeads tip := by
  cases ht with
  | refused _ | upToDate _ _ =>
    obtain rfl := Option.some.inj (hr.symm.trans hr')
    exact ⟨tip, htip, Leads.refl _ tip⟩
  | commit hr₀ _ _ recorded =>
    obtain rfl := Option.some.inj (hr₀.symm.trans hr)
    obtain rfl := Option.some.inj hr'
    have new := not_mem_of_fresh fresh hr rfl
    refine headLeads_of_record recorded (hs _ hr).1.grown new ?_
    exact List.mem_append_left _ (Option.mem_toList.2 htip)
  | fastForward ready _ base _ =>
    obtain rfl := Option.some.inj (ready.repository.symm.trans hr)
    obtain rfl := Option.some.inj hr'
    obtain rfl := Option.some.inj (ready.tip.symm.trans htip)
    refine ⟨_, headId_advance, ?_⟩
    rw [history_advance]
    exact (leads_of_mergeBase base).2
  | join ready _ _ _ _ _ recorded =>
    obtain rfl := Option.some.inj (ready.repository.symm.trans hr)
    obtain rfl := Option.some.inj hr'
    obtain rfl := Option.some.inj (ready.tip.symm.trans htip)
    have new := not_mem_of_fresh fresh hr rfl
    exact headLeads_of_record recorded (hs _ hr).1.grown new List.mem_cons_self
  | conflict ready _ _ _ _ _ _ =>
    obtain rfl := Option.some.inj (ready.repository.symm.trans hr)
    obtain rfl := Option.some.inj hr'
    exact ⟨tip, htip, Leads.refl _ tip⟩
  | _ => exact builds.elim

lemma fresh_of_none {op : Operation} (none : Answer.newId (op.perform w).1 = none) :
    op.Fresh w := by
  intro id hid
  rw [none] at hid
  cases hid

lemma newId_wrap_done {α : Type} (result : Except RepoError α × Workspace) :
    Answer.newId (Answer.wrap (fun _ => .done) result).1 = none := by
  obtain ⟨_ | _, _⟩ := result <;> rfl

end Workspace

/-! ### Runs with new commits -/

/-- A step is fresh if a commit that it makes is a new one. -/
def Step.Fresh (w : World) : Step → Prop
  | .workspace op => op.Fresh w.workspace
  | _ => True

namespace World

variable {w : World}

/-- What a run of fresh steps comes to, from an empty workspace and whatever is in the store. -/
inductive Reachable : World → Prop
  | start (store : Store) : Reachable ⟨.empty, .new store⟩
  | step (s : Step) {w : World} (before : Reachable w) (fresh : s.Fresh w) :
      Reachable (w.step s).2

lemma reachable_step (reached : w.workspace.Reachable) {s : Step} (fresh : s.Fresh w) :
    (w.step s).2.workspace.Reachable := by
  cases s with
  | workspace op => exact reached.step op fresh
  | faults faults => exact reached
  | host op =>
    cases op with
    | clone url =>
      refine cloneInto_induction .empty (fun branch h => ?_) (fun name url h => ?_) w.host reached
        url
      · exact h.step _ (Workspace.fresh_of_none (Workspace.newId_wrap_done _))
      · exact h.step _ (Workspace.fresh_of_none (Workspace.newId_wrap_done _))
    | pull remote branch => exact reached
    | _ =>
      rw [step, perform, workspace_settle]
      exact reached

lemma Reachable.workspace (h : Reachable w) : w.workspace.Reachable := by
  induction h with
  | start store => exact .empty
  | step s _ fresh ih => exact reachable_step ih fresh

end World

/-! ### After a push -/

/-- Whether an event puts other commits into the record. -/
def Event.Replaces : Event → Prop
  | .created _ | .pushed _ _ | .reset => True
  | _ => False

/-- A step neither replaces the commits of the record nor starts the workspace over. -/
structure Step.Spares (w : World) (s : Step) : Prop where
  record : ∀ e ∈ (w.step s).1, ¬e.Replaces
  uncleared : s ≠ .workspace .clear
  uncloned : ∀ url, s = .host (.clone url) → (w.step s).2.workspace = w.workspace

/-- A reference to the commit `c` has been pushed, and all steps since then have spared the record
and the workspace. -/
inductive World.SincePush (c : CommitId) : World → Prop
  | push {w : World} {remote branch : String} (before : w.Reachable)
      (names : w.workspace.resolve branch = .ok c)
      (success : (w.step (.host (.push remote branch))).1 = some (.pushed branch w.workspace)) :
      SincePush c (w.step (.host (.push remote branch))).2
  | step (s : Step) {w : World} (since : SincePush c w) (fresh : s.Fresh w) (spares : s.Spares w) :
      SincePush c (w.step s).2

/-- The record has the log of the commit `c`. -/
structure World.Mirrors (w : World) (c : CommitId) (r : Repository) (record : Record) : Prop where
  repository : w.workspace.repository = some r
  known : c ∈ r.history.ids
  stored : w.stored = .ok (some record)
  commits : record.commits = (r.history.log c).map Host.commitRecord

namespace World

variable {w : World} {c : CommitId} {r : Repository} {record : Record}

lemma stored_of_ending {s : Step} {event : Option Event} {w' : World} (ending : Ending w s event w')
    (spared : ∀ e ∈ event, ¬e.Replaces) (stored : w.stored = .ok (some record)) :
    ∃ record', w'.stored = .ok (some record') ∧ record'.commits = record.commits := by
  have same : ∀ {record₀}, w.host.require = .ok record₀ → record₀ = record := by
    intro record₀ required
    have found := (stored_of_require required).symm.trans stored
    exact Option.some.inj (Except.ok.inj found)
  cases ending with
  | aside _ | faults _ | counted _ => exact ⟨record, stored, rfl⟩
  | created _ | pushed _ _ | reset _ => exact absurd trivial (spared _ rfl)
  | opened required _ _ | merged required _ | published required _ =>
    exact ⟨_, stored_keeping _ _ _, congrArg (·.commits) (same required)⟩

lemma growsInto_step (hw : w.workspace.Reachable) {s : Step} (fresh : s.Fresh w)
    (spares : s.Spares w) (hr : w.workspace.repository = some r) :
    ∃ r', (w.step s).2.workspace.repository = some r' ∧ r.GrowsInto r' := by
  cases s with
  | workspace op =>
    have uncleared : op ≠ .clear := fun h => spares.uncleared (h ▸ rfl)
    exact (op.transition w.workspace).growsInto hw.sound fresh uncleared hr
  | faults faults => exact ⟨r, hr, .refl r⟩
  | host op =>
    cases op with
    | clone url => exact ⟨r, spares.uncloned url rfl ▸ hr, .refl r⟩
    | pull remote branch => exact ⟨r, hr, .refl r⟩
    | _ =>
      refine ⟨r, ?_, .refl r⟩
      rwa [step, perform, workspace_settle]

lemma mirrors_push (hw : w.workspace.Reachable) {remote branch : String}
    (names : w.workspace.resolve branch = .ok c)
    (success : (w.step (.host (.push remote branch))).1 = some (.pushed branch w.workspace)) :
    ∃ r record, (w.step (.host (.push remote branch))).2.Mirrors c r record := by
  have ending := ends_step w (.host (.push remote branch))
  generalize w.step (.host (.push remote branch)) = outcome at ending success ⊢
  obtain ⟨event, w'⟩ := outcome
  cases ending with
  | aside _ | published _ _ => cases success
  | pushed required read =>
    rw [Workspace.resolve, Workspace.ask] at names
    rw [Workspace.log, Workspace.ask] at read
    split at names
    · cases names
    · rename_i r hr
      simp only [hr, names, Except.ok.injEq] at read
      subst read
      exact ⟨r, _, hr, (hw.sound r hr).1.resolve_mem names, stored_keeping _ _ _, rfl⟩

lemma Mirrors.step (m : w.Mirrors c r record) (hw : w.workspace.Reachable) {s : Step}
    (fresh : s.Fresh w) (spares : s.Spares w) :
    ∃ r' record', (w.step s).2.Mirrors c r' record' ∧ r.GrowsInto r' := by
  obtain ⟨r', hr', grows⟩ := growsInto_step hw fresh spares m.repository
  obtain ⟨record', stored, commits⟩ := stored_of_ending (ends_step w s) spares.record m.stored
  have hg := (hw.sound r m.repository).1.grown
  have hg' := ((reachable_step hw fresh).sound r' hr').1.grown
  obtain ⟨x, hx, rfl⟩ := mem_ids_iff.1 m.known
  refine ⟨r', record', ⟨hr', mem_ids_of_mem (grows.commits hx), stored, ?_⟩, grows⟩
  rw [commits, m.commits, hg.log_eq_of_subset hg' grows.commits m.known]

namespace SincePush

lemma workspace (since : w.SincePush c) : w.workspace.Reachable := by
  induction since with
  | push before _ _ => exact reachable_step before.workspace trivial
  | step s _ fresh _ ih => exact reachable_step ih fresh

lemma mirrors (since : w.SincePush c) : ∃ r record, w.Mirrors c r record := by
  induction since with
  | push before names success => exact mirrors_push before.workspace names success
  | step s since fresh spares ih =>
    obtain ⟨r, record, m⟩ := ih
    obtain ⟨r', record', m', -⟩ := m.step since.workspace fresh spares
    exact ⟨r', record', m'⟩

end SincePush

/-! ### Pulls -/

lemma require_of_stored (stored : w.stored = .ok (some record)) :
    w.host.require =
      if w.host.store.faults.load then .error (.store (.failed "load")) else .ok record := by
  rw [World.stored] at stored
  rw [Host.require, Host.record?, Store.load, stored]
  cases w.host.store.faults.load <;> rfl

/-- A pull from `origin` finds `n` commits missing, and so many there are that `c` leads to and the
head does not. -/
structure Counts (w : World) (c : CommitId) (r : Repository) (n : ℕ) : Prop where
  repository : w.workspace.repository = some r
  lacks : (r.lacking c).encard = n
  /-- A pull fails only while the record cannot be loaded. -/
  pulls : ∃ record, w.stored = .ok (some record) ∧ ∀ branch,
    w.host.pull w.workspace Host.origin branch =
      if w.host.store.faults.load then .error (.store (.failed "load"))
      else .ok ⟨record.url, branch, n⟩

lemma Mirrors.pull_eq (m : w.Mirrors c r record) (hl : r.Linked) {tip : CommitId}
    (htip : r.headId = some tip) (branch : String) :
    w.host.pull w.workspace Host.origin branch =
      if w.host.store.faults.load then .error (.store (.failed "load"))
      else .ok ⟨record.url, branch, (r.missing c tip).length⟩ := by
  have head : w.workspace.log "HEAD" = .ok (r.history.log tip) := by
    simp only [Workspace.log, Workspace.ask, m.repository, Repository.resolve, if_true, htip]
  have nonempty : record.commits.isEmpty = false := by
    rw [m.commits, List.isEmpty_map, ← Bool.not_eq_true, List.isEmpty_iff]
    obtain ⟨x, older, hlog, -⟩ := hl.grown.exists_log_eq_cons m.known
    exact hlog ▸ List.cons_ne_nil x older
  -- Ids are compared by their digits, which tell the commits of one history apart.
  have listed : ∀ x ∈ r.history.log c,
      x.id.hex ∈ (r.history.log tip).map (fun y : Commit => y.id.hex) ↔ x ∈ r.history.log tip := by
    intro x hx
    refine ⟨fun h => ?_, List.mem_map_of_mem⟩
    obtain ⟨y, hy, same⟩ := List.mem_map.1 h
    have hid : y.id = x.id := congrArg CommitId.mk same
    exact hl.grown.eq_of_id ((log_sublist _ _).subset hy) ((log_sublist _ _).subset hx) hid ▸ hy
  have count : (record.commits.filter fun x =>
      x.id ∉ (r.history.log tip).map fun y : Commit => y.id.hex).length =
        (r.missing c tip).length := by
    rw [m.commits, List.filter_map, List.length_map, Repository.missing]
    refine congrArg List.length (List.filter_congr fun x hx => ?_)
    exact decide_eq_decide.2 (not_congr (listed x hx))
  rw [Host.pull, if_neg (not_not_intro rfl), require_of_stored m.stored, head]
  cases w.host.store.faults.load with
  | true => rfl
  | false => simp only [Bool.false_eq_true, if_false, nonempty, count]

lemma Mirrors.counts (m : w.Mirrors c r record) (hw : w.workspace.Reachable) :
    ∃ n, w.Counts c r n := by
  obtain ⟨hl, -⟩ := hw.sound r m.repository
  have born : r.headId ≠ none := by
    intro unborn
    have known := m.known
    rw [hl.born unborn] at known
    exact List.not_mem_nil known
  obtain ⟨tip, htip⟩ := Option.ne_none_iff_exists'.1 born
  exact ⟨_, m.repository, Repository.encard_lacking hl.grown m.known htip,
    record, m.stored, m.pull_eq hl htip⟩

lemma Mirrors.counts_step (m : w.Mirrors c r record) (hw : w.workspace.Reachable) {n : ℕ}
    (count : w.Counts c r n) {op : Workspace.Operation} (builds : op.BuildsOnHead)
    (fresh : op.Fresh w.workspace) :
    ∃ r' n', (w.step (.workspace op)).2.Counts c r' n' ∧ n' ≤ n := by
  have spares : (Step.workspace op).Spares w := by
    refine ⟨fun e he => (by cases he), ?_, fun url h => (by cases h)⟩
    rintro ⟨⟩
    exact builds
  obtain ⟨r', record', m', grows⟩ := m.step hw (s := .workspace op) fresh spares
  have hw' := reachable_step (s := .workspace op) hw fresh
  obtain ⟨n', count'⟩ := m'.counts hw'
  have onward : ∀ {tip}, r.headId = some tip → r'.HeadLeads tip := fun htip =>
    (op.transition w.workspace).headLeads hw.sound fresh builds m.repository m'.repository htip
  have hg := (hw.sound r m.repository).1.grown
  have hg' := (hw'.sound r' m'.repository).1.grown
  have fewer : (r'.lacking c).encard ≤ (r.lacking c).encard :=
    Set.encard_le_encard (Repository.lacking_subset hg hg' grows.commits m.known onward)
  rw [count.lacks, count'.lacks, Nat.cast_le] at fewer
  exact ⟨r', n', count', fewer⟩

/-- **A pull counts exactly what the head lacks.** Whatever has been done since a commit was pushed,
as long as the record has its log and the workspace has not been started over, a pull finds as many
commits missing as that commit leads to and the head does not; none exactly if the head leads to the
commit itself. Commits and merges never raise that number, and a pull changes nothing. -/
theorem pull_counts_missing (since : w.SincePush c) :
    ∃ r n, w.Counts c r n ∧ (n = 0 ↔ r.HeadLeads c) ∧
      (∀ op : Workspace.Operation, op.BuildsOnHead → op.Fresh w.workspace →
        ∃ r' n', (w.step (.workspace op)).2.Counts c r' n' ∧ n' ≤ n) ∧
      ∀ branch, w.step (.host (.pull Host.origin branch)) = (none, w) := by
  obtain ⟨r, record, m⟩ := since.mirrors
  obtain ⟨n, count⟩ := m.counts since.workspace
  refine ⟨r, n, count, ?_, ?_, fun branch => rfl⟩
  · rw [← Repository.lacking_eq_empty_iff, ← Set.encard_eq_zero, count.lacks, Nat.cast_eq_zero]
  · exact fun op builds fresh => m.counts_step since.workspace count builds fresh

lemma Reachable.run {host : Host} {workspace workspace' : Workspace}
    (h : Reachable ⟨workspace, host⟩) (ops : List Workspace.Operation)
    (hrun : workspace.run ops = some workspace') : Reachable ⟨workspace', host⟩ := by
  induction ops generalizing workspace with
  | nil => exact Option.some.inj hrun ▸ h
  | cons op ops ih =>
    rw [Workspace.run] at hrun
    split at hrun
    · rename_i fresh
      exact ih (h.step (.workspace op) fresh) hrun
    · cases hrun

/-- `main` is about to be pushed to a new repository, while `b` is checked out. -/
def unpushed : World := ((⟨.diverged, .new .inMemory⟩ : World).step (.host (.create "notes"))).2

lemma reachable_unpushed : unpushed.Reachable := by
  have diverged : Reachable ⟨.diverged, .new .inMemory⟩ :=
    (Reachable.start .inMemory).run Workspace.diverging (by decide +kernel)
  exact diverged.step (.host (.create "notes")) trivial

/-- `main` has been pushed, and then the site is published. -/
def online : World :=
  ((unpushed.step (.host (.push "origin" "main"))).2.step (.host .publish)).2

theorem pull_counts_missing_online :
    online.SincePush Workspace.mainId ∧
      online.Counts Workspace.mainId Workspace.divergedRepository 1 ∧
      ¬Workspace.divergedRepository.HeadLeads Workspace.mainId := by
  have pushed : (unpushed.step (.host (.push "origin" "main"))).2.SincePush Workspace.mainId :=
    .push reachable_unpushed (by decide +kernel) rfl
  have spares : (Step.host .publish).Spares (unpushed.step (.host (.push "origin" "main"))).2 := by
    refine ⟨fun e he => ?_, fun h => (by cases h), fun url h => (by cases h)⟩
    obtain rfl : Event.published = e := Option.some.inj he
    exact id
  have since : online.SincePush Workspace.mainId := pushed.step (.host .publish) trivial spares
  have found : online.host.pull online.workspace Host.origin "main" =
      .ok ⟨"https://github-sim.local/notes.git", "main", 1⟩ := by
    decide +kernel
  obtain ⟨r, n, count, zero, -, -⟩ := pull_counts_missing since
  obtain rfl : r = Workspace.divergedRepository := (Option.some.inj count.repository).symm
  obtain rfl : n = 1 := by
    obtain ⟨record, -, pulls⟩ := count.pulls
    have answer := (pulls "main").symm.trans found
    exact congrArg PullReport.missing (Except.ok.inj answer)
  exact ⟨since, count, mt zero.2 Nat.one_ne_zero⟩

end World

end GitTutor
