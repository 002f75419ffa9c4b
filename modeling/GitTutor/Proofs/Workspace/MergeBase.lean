import GitTutor.Proofs.History.Numbering
import GitTutor.Proofs.Workspace.Integrity

/-!
Best common ancestors.

Where two branches have been merged into each other, two commits have several common ancestors of
which none leads to another. The merge base is one of these (`Grown.bestCommon_of_mergeBase`). It is
chosen by its number, and this is enough: a common ancestor that led to it would have been made
later, and there is always one to choose, as all commits lead to the first.
-/

namespace GitTutor

namespace History

variable {h : History} {a b m : CommitId}

/-- Parent links come from both `a` and `b` to `m`, and `m` is behind no other such commit. -/
structure BestCommon (h : History) (a b m : CommitId) : Prop where
  left : Leads h a m
  right : Leads h b m
  best : ∀ d, Leads h a d → Leads h b d → d ≠ m → ¬Leads h d m

lemma Grown.bestCommon_of_mergeBase (hg : Grown h) (ha : a ∈ h.ids)
    (base : h.mergeBase a b = some m) : BestCommon h a b m := by
  obtain ⟨left, right⟩ := leads_of_mergeBase base
  obtain ⟨c, hc, rfl⟩ := mem_ids_iff.1 (hg.mem_of_leads ha left)
  have newest := ((hg.mergeBase_eq_some_iff hc).1 base).2
  refine ⟨left, right, fun d hda hdb other beyond => ?_⟩
  obtain ⟨e, he, rfl⟩ := mem_ids_iff.1 (hg.mem_of_leads ha hda)
  have older : e.seq ≤ c.seq := newest e he ⟨hda, hdb⟩
  -- Whatever leads to `c` and is not `c` has been made later, and nothing common has.
  rcases hg.eq_or_seq_lt he hc beyond with rfl | newer
  · exact other rfl
  · omega

lemma Grown.bestCommon_iff (hg : Grown h) (ha : a ∈ h.ids) :
    BestCommon h a b m ↔ m ∈ h.ancestors a ∧ m ∈ h.ancestors b ∧
      ∀ d ∈ h.ids, d ∈ h.ancestors a ∧ d ∈ h.ancestors b ∧ m ∈ h.ancestors d → d = m := by
  simp only [mem_ancestors_iff hg]
  constructor
  · rintro ⟨left, right, best⟩
    refine ⟨left, right, fun d _ ⟨hda, hdb, beyond⟩ => ?_⟩
    by_contra other
    exact best d hda hdb other beyond
  · rintro ⟨left, right, best⟩
    refine ⟨left, right, fun d hda hdb other beyond => ?_⟩
    have known : d ∈ h.ids := hg.mem_of_leads ha hda
    exact other (best d known ⟨hda, hdb, beyond⟩)

end History

namespace Workspace

open History

variable {w : Workspace} {r : Repository} {a b : CommitId}

/-- **Two commits have a best common ancestor for their merge base.** In a reachable workspace any
two commits have a merge base, and it is the same one the other way round. Both lead to it, and no
other commit that both lead to leads to it. It is the second commit exactly if that one is the first
or an ancestor of it. -/
theorem merge_base_best (hw : Reachable w) (hr : w.repository = some r) (ha : a ∈ r.history.ids)
    (hb : b ∈ r.history.ids) :
    ∃ m, r.history.mergeBase a b = some m ∧ BestCommon r.history a b m ∧
      r.history.mergeBase b a = some m ∧
      (m = b ↔ b = a ∨ Relation.TransGen (Parent r.history) a b) := by
  have hg : r.history.Grown := (hw.sound r hr).1.grown
  obtain ⟨m, base⟩ := hg.exists_mergeBase ha hb
  refine ⟨m, base, hg.bestCommon_of_mergeBase ha base, ?_, ?_⟩
  · rw [mergeBase_comm]
    exact base
  · calc m = b ↔ r.history.mergeBase a b = some b := by rw [base, Option.some.injEq]
      _ ↔ Leads r.history a b := hg.mergeBase_eq_right_iff hb
      _ ↔ b = a ∨ Relation.TransGen (Parent r.history) a b :=
        Relation.reflTransGen_iff_eq_or_transGen

/-! ### Two branches that have been merged into each other -/

/-- Both branches get a commit of their own. Then `b` is merged into `main`, and what `main` was
before that into `b`. -/
def crossing : List Operation :=
  [.init "main", .write "a" "x\n", .add "a", .commit 0 "1" ⟨"", ""⟩, .createBranch "b",
    .write "m" "m\n", .add "m", .commit 0 "2" ⟨"", ""⟩, .createBranch "old",
    .checkout "b", .write "n" "n\n", .add "n", .commit 0 "3" ⟨"", ""⟩,
    .checkout "main", .merge 0 "b" ⟨"", ""⟩, .checkout "b", .merge 0 "old" ⟨"", ""⟩]

/-- The merge on `main` after `crossing`. -/
def crossedMainId : CommitId := ⟨"ab29ded8c7d246a1cc77a46c12d49952f7293aa5"⟩

/-- The merge on `b` after `crossing`. -/
def crossedSideId : CommitId := ⟨"00c277cf9dd628abcc57a3bda45d6946f1a0ba30"⟩

/-- The newer one of the two commits that both merges have for parents. -/
def crossedBaseId : CommitId := ⟨"0dd16feddbfbfd160ecf570d1c356e1c6ca12b99"⟩

/-- The older one of these two. -/
def crossedOtherId : CommitId := ⟨"13561e4f9f1d16b22d3ad1e87810a69f6d661399"⟩

/-- The newer one of two best common ancestors is the merge base. -/
theorem merge_base_best_crossed :
    ∃ w r, Reachable w ∧ w.repository = some r ∧ crossedMainId ∈ r.history.ids ∧
      crossedSideId ∈ r.history.ids ∧
      BestCommon r.history crossedMainId crossedSideId crossedOtherId ∧
      ∃ m, m = crossedBaseId ∧ r.history.mergeBase crossedMainId crossedSideId = some m ∧
        BestCommon r.history crossedMainId crossedSideId m ∧
        r.history.mergeBase crossedSideId crossedMainId = some m ∧
        (m = crossedSideId ↔ crossedSideId = crossedMainId ∨
          Relation.TransGen (Parent r.history) crossedMainId crossedSideId) := by
  -- The paths behind `BestCommon` cannot be run, but the search for ancestors can.
  have crossed : ∃ w ∈ run .empty crossing, ∃ r ∈ w.repository, crossedMainId ∈ r.history.ids ∧
      crossedSideId ∈ r.history.ids ∧
      (crossedOtherId ∈ r.history.ancestors crossedMainId ∧
        crossedOtherId ∈ r.history.ancestors crossedSideId ∧
        ∀ d ∈ r.history.ids, d ∈ r.history.ancestors crossedMainId ∧
          d ∈ r.history.ancestors crossedSideId ∧ crossedOtherId ∈ r.history.ancestors d →
            d = crossedOtherId) ∧
      r.history.mergeBase crossedMainId crossedSideId = some crossedBaseId := by
    decide +kernel
  obtain ⟨w, hrun, r, hr, hmain, hside, other, base⟩ := crossed
  have reachable : Reachable w := Reachable.run .empty crossing hrun
  have hg : r.history.Grown := (reachable.sound r hr).1.grown
  obtain ⟨m, base', result⟩ := merge_base_best reachable hr hmain hside
  have newer : m = crossedBaseId := Option.some.inj (base'.symm.trans base)
  exact ⟨w, r, reachable, hr, hmain, hside, (hg.bestCommon_iff hmain).2 other, m, newer, base',
    result⟩

end Workspace

end GitTutor
