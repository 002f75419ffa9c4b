import GitTutor.Repository.Checkout
import GitTutor.Proofs.History.Ancestry

/-!
References that lead to commits.

In a linked repository everything that names a commit names one of the history. Recording a
commit of a new id and moving the head keep it so.
-/

namespace GitTutor.Repository

open History

variable {r : Repository} {id : CommitId}

/-! ### Trees of commits -/

lemma treeOf_of_mem (hg : r.history.Grown) {c : Commit} (hc : c ∈ r.history) :
    r.treeOf c.id = c.tree := by
  rw [treeOf, hg.find?_iff.2 ⟨hc, rfl⟩]

lemma treeOf_within (hg : r.history.Grown) {a b : CommitId} (hl : Leads r.history a b) :
    (r.treeOf b).Within (r.treeOf a) := by
  induction hl with
  | refl => exact Table.Within.refl _
  | tail _ hp ih =>
    refine Table.Within.trans ?_ ih
    obtain ⟨d, hd, rfl, hpar⟩ := hp
    obtain ⟨e, he, rfl⟩ := mem_ids_iff.1 (hg.parent_mem ⟨d, hd, rfl, hpar⟩)
    rw [treeOf_of_mem hg hd, treeOf_of_mem hg he]
    exact hg.tree_within_of_parent hd he hpar

lemma headTree_of_tip (tip : r.headId = some id) : r.headTree = r.treeOf id := by
  rw [headTree, tip]

lemma treeOf_cons {c : Commit} {r' : Repository} (hh : r'.history = c :: r.history)
    (hid : id ≠ c.id) : r'.treeOf id = r.treeOf id := by
  simp [treeOf, hh, History.find?, Ne.symm hid]

lemma treeOf_cons_self {c : Commit} {r' : Repository} (hh : r'.history = c :: r.history) :
    r'.treeOf c.id = c.tree := by
  simp [treeOf, hh, History.find?]

/-! ### Moving the head -/

@[simp] lemma history_advance : (r.advance id).history = r.history := by
  unfold advance
  split <;> rfl

@[simp] lemma index_advance : (r.advance id).index = r.index := by
  unfold advance
  split <;> rfl

@[simp] lemma conflicts_advance : (r.advance id).conflicts = r.conflicts := by
  unfold advance
  split <;> rfl

@[simp] lemma mergeHead_advance : (r.advance id).mergeHead = r.mergeHead := by
  unfold advance
  split <;> rfl

@[simp] lemma headId_advance : (r.advance id).headId = some id := by
  unfold advance
  cases r.head with
  | branch name => simp [headId]
  | detached old => rfl

@[simp] lemma treeOf_advance (id' : CommitId) : (r.advance id).treeOf id' = r.treeOf id' := by
  simp [treeOf]

@[simp] lemma headTree_advance : (r.advance id).headTree = r.treeOf id := by
  simp [headTree]

@[simp] lemma get?_branches_advance (name : String) :
    (r.advance id).branches.get? name =
      if r.head = .branch name then some id else r.branches.get? name := by
  unfold advance
  cases hd : r.head with
  | branch current => simp
  | detached old => simp

lemma branches_advance {name : String} {target : CommitId}
    (h : (r.advance id).branches.get? name = some target) :
    (target = id ∧ r.head = .branch name) ∨ r.branches.get? name = some target := by
  rw [get?_branches_advance] at h
  split at h
  · rename_i hd
    exact .inl ⟨(Option.some.inj h).symm, hd⟩
  · exact .inr h

lemma head_advance {name : String} (h : (r.advance id).head = .branch name) :
    r.head = .branch name := by
  unfold advance at h
  split at h
  · exact h
  · cases h

/-- A branch made at the commit of the head leaves the head there, even under the head's name. -/
lemma headId_insert_tip {name : String} (tip : r.headId = some id) :
    { r with branches := r.branches.insert name id }.headId = some id := by
  unfold headId at tip ⊢
  cases hd : r.head with
  | branch current =>
    rw [hd] at tip
    simp only [Table.get?_insert]
    split
    · rfl
    · exact tip
  | detached old =>
    rw [hd] at tip
    exact tip

/-! ### Destinations -/

lemma destination_ends {reference : String} {place : Destination}
    (h : r.destination reference = .ok place) :
    (place = .here ∧ r.head = .branch reference) ∨
      (∃ id, place = .commit (.branch reference) id ∧ r.branches.get? reference = some id) ∨
      ∃ id, place = .commit (.detached id) id ∧ r.resolve reference = .ok id ∧
        r.branches.get? reference = none ∧ r.head ≠ .branch reference := by
  unfold destination at h
  split at h
  · rename_i id hb
    exact .inr (.inl ⟨id, (Except.ok.inj h).symm, hb⟩)
  · rename_i missing
    split at h
    · rename_i current
      exact .inl ⟨(Except.ok.inj h).symm, current⟩
    · rename_i other
      split at h
      · rename_i id hres
        exact .inr (.inr ⟨id, (Except.ok.inj h).symm, hres, missing, other⟩)
      · cases h

lemma destination_cases {reference : String} {head : Head}
    (h : r.destination reference = .ok (.commit head id)) :
    (head = .branch reference ∧ r.branches.get? reference = some id) ∨
      (head = .detached id ∧ r.resolve reference = .ok id) := by
  rcases destination_ends h with ⟨⟨⟩, -⟩ | ⟨_, ⟨⟩, hb⟩ | ⟨_, ⟨⟩, hres, -, -⟩
  · exact .inl ⟨rfl, hb⟩
  · exact .inr ⟨rfl, hres⟩

lemma headId_of_destination {reference : String} {head : Head}
    (h : r.destination reference = .ok (.commit head id)) :
    { r with head }.headId = some id := by
  rcases destination_cases h with ⟨rfl, hb⟩ | ⟨rfl, -⟩
  · exact hb
  · rfl

/-! ### Anchored repositories -/

/-- The branches and the head stand at commits of the history. -/
structure Anchored (r : Repository) : Prop where
  branches : ∀ {name id}, r.branches.get? name = some id → id ∈ r.history.ids
  head : ∀ {id}, r.headId = some id → id ∈ r.history.ids

namespace Anchored

lemma resolve_mem (h : Anchored r) {reference : String} (hres : r.resolve reference = .ok id) :
    id ∈ r.history.ids := by
  unfold resolve at hres
  split at hres
  · split at hres
    · rename_i tip
      exact h.head (Except.ok.inj hres ▸ tip)
    · cases hres
  · split at hres
    · rename_i hb
      exact h.branches (Except.ok.inj hres ▸ hb)
    · split at hres
      · cases hres
      · split at hres
        · rename_i ha
          rw [Except.ok.inj hres] at ha
          unfold abbreviated? at ha
          simp only at ha
          split at ha
          · split at ha
            · rename_i hf
              have hin := List.mem_singleton_self id
              rw [← Option.some.inj ha, ← hf] at hin
              rw [← Option.some.inj ha]
              exact (List.mem_filter.1 hin).1
            · cases ha
          · cases ha
        · cases hres

lemma destination_mem (h : Anchored r) {reference : String} {head : Head}
    (hd : r.destination reference = .ok (.commit head id)) : id ∈ r.history.ids := by
  rcases destination_cases hd with ⟨-, hb⟩ | ⟨-, hres⟩
  · exact h.branches hb
  · exact h.resolve_mem hres

end Anchored

/-! ### Linked repositories -/

structure Linked (r : Repository) : Prop where
  grown : r.history.Grown
  branches : ∀ {name id}, r.branches.get? name = some id → id ∈ r.history.ids
  head : ∀ {id}, r.headId = some id → id ∈ r.history.ids
  /-- Only before the first commit does the head lead nowhere. -/
  born : r.headId = none → r.history = []
  mergeHead : ∀ {id}, r.mergeHead = some id → id ∈ r.history.ids
  branchNames : ∀ {name id}, r.branches.get? name = some id → validBranchName name = true
  currentName : ∀ {name}, r.head = .branch name → validBranchName name = true

namespace Linked

lemma start {branch : String} (valid : validBranchName branch = true) :
    Linked (.start branch) where
  grown := .nil
  branches := by simp [Repository.start]
  head := by simp [Repository.start, headId]
  born := fun _ => rfl
  mergeHead := by simp [Repository.start]
  branchNames := by simp [Repository.start]
  currentName := by
    intro name h
    exact (Head.branch.inj h) ▸ valid

lemma anchored (hl : Linked r) : Anchored r := ⟨hl.branches, hl.head⟩

lemma resolve_mem (hl : Linked r) {reference : String} (h : r.resolve reference = .ok id) :
    id ∈ r.history.ids :=
  hl.anchored.resolve_mem h

lemma resolve_branch (hl : Linked r) {name : String} (h : r.branches.get? name = some id) :
    r.resolve name = .ok id := by
  have hne : name ≠ "HEAD" := by
    rintro rfl
    have := hl.branchNames h
    simp [validBranchName] at this
  rw [resolve, if_neg hne, h]

lemma congr (hl : Linked r) {r' : Repository} (history : r'.history = r.history)
    (branches : r'.branches = r.branches) (head : r'.head = r.head)
    (mergeHead : ∀ {id}, r'.mergeHead = some id → id ∈ r.history.ids) : Linked r' where
  grown := history ▸ hl.grown
  branches h := history ▸ hl.branches (branches ▸ h)
  head h := by
    rw [headId, head, branches] at h
    exact history ▸ hl.head h
  born h := by
    rw [headId, head, branches] at h
    exact history ▸ hl.born h
  mergeHead h := history ▸ mergeHead h
  branchNames h := hl.branchNames (branches ▸ h)
  currentName h := hl.currentName (head ▸ h)

lemma advance (grown : r.history.Grown) (hid : id ∈ r.history.ids)
    (branches : ∀ {name id}, r.branches.get? name = some id →
      id ∈ r.history.ids ∧ validBranchName name = true)
    (mergeHead : ∀ {id}, r.mergeHead = some id → id ∈ r.history.ids)
    (currentName : ∀ {name}, r.head = .branch name → validBranchName name = true) :
    Linked (r.advance id) where
  grown := by rwa [history_advance]
  branches h := by
    rw [history_advance]
    rcases branches_advance h with ⟨rfl, -⟩ | h
    · exact hid
    · exact (branches h).1
  head h := by
    rw [headId_advance, Option.some.injEq] at h
    rwa [history_advance, ← h]
  born h := by
    rw [headId_advance] at h
    cases h
  mergeHead h := by
    rw [mergeHead_advance] at h
    rw [history_advance]
    exact mergeHead h
  branchNames h := by
    rcases branches_advance h with ⟨-, hc⟩ | h
    · exact currentName hc
    · exact (branches h).2
  currentName h := currentName (head_advance h)

lemma advance_of_mem (hl : Linked r) (hid : id ∈ r.history.ids) : Linked (r.advance id) :=
  advance hl.grown hid (fun h => ⟨hl.branches h, hl.branchNames h⟩) hl.mergeHead hl.currentName

lemma record (hl : Linked r) {c : Commit} (fresh : c.id ∉ r.history.ids)
    (seq : c.seq = r.history.length) (known : ∀ p ∈ c.parents, p ∈ r.history.ids)
    (rooted : c.parents = [] → r.history = [])
    (trees : ∀ p ∈ c.parents, (r.treeOf p).Within c.tree) :
    Linked ({ r with history := c :: r.history }.advance c.id) := by
  have trees' : ∀ d ∈ r.history, d.id ∈ c.parents → d.tree.Within c.tree := by
    intro d hd hp
    rw [← treeOf_of_mem hl.grown hd]
    exact trees d.id hp
  refine advance (.cons hl.grown fresh seq known rooted trees') List.mem_cons_self ?_ ?_ ?_
  · exact fun h => ⟨List.mem_cons_of_mem _ (hl.branches h), hl.branchNames h⟩
  · exact fun h => List.mem_cons_of_mem _ (hl.mergeHead h)
  · exact hl.currentName

lemma createBranch (hl : Linked r) {name : String} (valid : validBranchName name = true)
    (tip : r.headId = some id) : Linked { r with branches := r.branches.insert name id } where
  grown := hl.grown
  branches h := by
    rw [Table.get?_insert] at h
    split at h
    · exact Option.some.inj h ▸ hl.head tip
    · exact hl.branches h
  head h := by
    rw [headId_insert_tip tip, Option.some.injEq] at h
    exact h ▸ hl.head tip
  born h := by
    rw [headId_insert_tip tip] at h
    cases h
  mergeHead := hl.mergeHead
  branchNames h := by
    rw [Table.get?_insert] at h
    split at h
    · rename_i hn
      exact hn ▸ valid
    · exact hl.branchNames h
  currentName := hl.currentName

end Linked

lemma Linked.checkout (hl : Linked r) {reference : String} {head : Head}
    (h : r.destination reference = .ok (.commit head id)) : Linked { r with head } where
  grown := hl.grown
  branches := hl.branches
  head h' := by
    rw [headId_of_destination h, Option.some.injEq] at h'
    exact h' ▸ hl.anchored.destination_mem h
  born h' := by
    rw [headId_of_destination h] at h'
    cases h'
  mergeHead := hl.mergeHead
  branchNames := hl.branchNames
  currentName h' := by
    rcases destination_cases h with ⟨rfl, hb⟩ | ⟨rfl, -⟩
    · exact hl.branchNames (Head.branch.inj h' ▸ hb)
    · cases h'

/-! ### Recording -/

/-- A commit is found under its id, even if the history had another one of that id. -/
lemma find?_insert_self (h : History) (c : Commit) : (h.insert c).find? c.id = some c := by
  have others : ∀ d ∈ (h.filter (·.id ≠ c.id)).takeWhile (·.precedes c), d.id ≠ c.id := by
    intro d hd
    simpa using (List.mem_filter.1 ((List.takeWhile_sublist _).subset hd)).2
  rw [History.insert, History.find?, List.find?_append,
    List.find?_eq_none.2 (by simpa using others)]
  simp

lemma record_eq {r' : Repository} (hg : r.history.Grown) {now : Int64} {tree : Tree}
    {parents : List CommitId} {message : String} {author : Signature}
    (h : r.record now tree parents message author = (id, r')) (fresh : id ∉ r.history.ids) :
    ∃ c : Commit, c.id = id ∧
      c.toSnapshot = ⟨tree, parents, author, now, r.history.length, message⟩ ∧
      r' = { r with history := c :: r.history }.advance c.id := by
  unfold record at h
  simp only [Prod.mk.injEq] at h
  obtain ⟨rfl, rfl⟩ := h
  refine ⟨_, rfl, rfl, ?_⟩
  rw [History.insert_eq_cons]
  · exact fun x hx heq => fresh (heq ▸ mem_ids_of_mem hx)
  · exact fun x hx => hg.seq_lt hx

section

variable {r' : Repository} {now : Int64} {tree : Tree} {parents : List CommitId} {message : String}
  {author : Signature}

lemma conflicts_record (h : r.record now tree parents message author = (id, r')) :
    r'.conflicts = r.conflicts := by
  obtain ⟨-, rfl⟩ := Prod.mk.inj h
  exact conflicts_advance

lemma mergeHead_record (h : r.record now tree parents message author = (id, r')) :
    r'.mergeHead = r.mergeHead := by
  obtain ⟨-, rfl⟩ := Prod.mk.inj h
  exact mergeHead_advance

end

/-- What recording leaves: the new commit is checked out, and the older ones are as they were. -/
structure Recorded (r r' : Repository) (tree : Tree) : Prop where
  linked : Linked r'
  headTree : r'.headTree = tree
  index : r'.index = r.index
  conflicts : r'.conflicts = r.conflicts
  mergeHead : r'.mergeHead = r.mergeHead
  treeOf : ∀ old ∈ r.history.ids, r'.treeOf old = r.treeOf old

lemma Linked.recorded (hl : Linked r) {r' : Repository} {now : Int64} {tree : Tree}
    {parents : List CommitId} {message : String} {author : Signature}
    (h : r.record now tree parents message author = (id, r')) (fresh : id ∉ r.history.ids)
    (known : ∀ p ∈ parents, p ∈ r.history.ids) (rooted : parents = [] → r.history = [])
    (trees : ∀ p ∈ parents, (r.treeOf p).Within tree) : Recorded r r' tree := by
  obtain ⟨c, rfl, hs, rfl⟩ := record_eq hl.grown h fresh
  have hparents : c.parents = parents := congrArg (·.parents) hs
  have htree : c.tree = tree := congrArg (·.tree) hs
  subst hparents htree
  refine ⟨hl.record fresh (congrArg (·.seq) hs) known rooted trees, ?_, index_advance,
    conflicts_advance, mergeHead_advance, ?_⟩
  · rw [headTree_advance]
    exact treeOf_cons_self rfl
  · intro old hold
    rw [treeOf_advance]
    exact treeOf_cons rfl fun heq => fresh (heq ▸ hold)

end GitTutor.Repository
