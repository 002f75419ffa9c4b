import GitTutor.Merge.Text
import Mathlib.Data.List.Basic

/-!
Merging with the sides exchanged.

A merge treats its two sides alike, up to the order in which a conflict shows them: with the sides
exchanged it has the same regions, and in those that are disputed the sides are exchanged too
(`regions_comm`). So a text merges cleanly either way or neither, and to the same text.
-/

namespace GitTutor.Merge

open GitTutor.Text

lemma pick_none_iff {α : Type} [DecidableEq α] {base ours theirs : α} :
    pick base ours theirs = none ↔ ours ≠ theirs ∧ theirs ≠ base ∧ ours ≠ base := by
  unfold pick
  split_ifs with same kept
  · exact iff_of_false (by simp) fun h => same.elim h.1 h.2.1
  · exact iff_of_false (by simp) fun h => h.2.2 kept
  · exact iff_of_true rfl ⟨fun h => same (.inl h), fun h => same (.inr h), kept⟩

lemma pick_comm {α : Type} [DecidableEq α] (base ours theirs : α) :
    pick base theirs ours = pick base ours theirs := by
  unfold pick
  by_cases hot : ours = theirs
  · simp [hot]
  · by_cases htb : theirs = base
    · subst htb
      simp [hot, Ne.symm hot]
    · simp [hot, Ne.symm hot, htb]

/-! ### Regions -/

def Region.exchanged : Region → Region
  | .settled lines => .settled lines
  | .disputed ours theirs => .disputed theirs ours

lemma exchanged_of_settled {region : Region} (h : region.isDisputed = false) :
    region.exchanged = region := by
  cases region with
  | settled lines => rfl
  | disputed ours theirs => cases h

lemma dispute_exchanged (ours theirs : Line) (regions : List Region) :
    dispute theirs ours (regions.map .exchanged) =
      (dispute ours theirs regions).map .exchanged := by
  match regions with
  | [] => rfl
  | .settled lines :: rest => rfl
  | .disputed os ts :: rest => rfl

lemma byLine_comm (base ours theirs : List Line) :
    byLine base theirs ours = (byLine base ours theirs).map .exchanged := by
  induction base generalizing ours theirs with
  | nil => rfl
  | cons b bs ih =>
    match ours, theirs with
    | [], [] => rfl
    | [], t :: ts => rfl
    | o :: os, [] => rfl
    | o :: os, t :: ts =>
      simp only [byLine, pick_comm b o t]
      cases pick b o t with
      | some line => simp [ih os ts, Region.exchanged]
      | none => rw [ih os ts, dispute_exchanged]

lemma shared_comm (base ours theirs : List Line) :
    shared base theirs ours = shared base ours theirs := by
  induction base generalizing ours theirs with
  | nil => rfl
  | cons b bs ih =>
    match ours, theirs with
    | [], [] => rfl
    | [], t :: ts => rfl
    | o :: os, [] => rfl
    | o :: os, t :: ts => simp only [shared, and_comm, ih os ts]

lemma byBlock_comm (base ours theirs : List Line) :
    byBlock base theirs ours = (byBlock base ours theirs).map .exchanged := by
  simp only [byBlock, shared_comm base ours theirs]
  generalize (shared base ours theirs).length = top
  rw [shared_comm _ (ours.drop top).reverse, pick_comm]
  -- What is set aside at both ends is settled; only the block between can be disputed.
  split <;> rfl

/-- **With the sides exchanged, a merge has the same regions with their sides exchanged.** -/
theorem regions_comm (base ours theirs : List Line) :
    regions base theirs ours = (regions base ours theirs).map .exchanged := by
  unfold regions
  by_cases even : base.length = ours.length ∧ base.length = theirs.length
  · rw [if_pos even, if_pos even.symm, byLine_comm]
  · rw [if_neg even, if_neg (mt And.symm even), byBlock_comm]

/-! ### Texts -/

lemma render_of_settled (labels labels' : Labels) {region : Region}
    (h : region.isDisputed = false) : region.render labels = region.render labels' := by
  cases region with
  | settled lines => rfl
  | disputed ours theirs => cases h

lemma mergeText_clean_exchanged {labels : Labels} (labels' : Labels)
    {base ours theirs text : String} (h : mergeText labels base ours theirs = .clean text) :
    mergeText labels' base theirs ours = .clean text := by
  simp only [mergeText] at h ⊢
  rw [regions_comm (pieces base.toList) (pieces ours.toList)]
  generalize regions (pieces base.toList) (pieces ours.toList) (pieces theirs.toList) = rs at h ⊢
  split at h
  · cases h
  · rename_i settled
    have plain : ∀ region ∈ rs, region.isDisputed = false := by simpa using settled
    have same : rs.map .exchanged = rs :=
      (List.map_congr_left fun region hr => exchanged_of_settled (plain region hr)).trans
        (List.map_id' rs)
    rw [same, if_neg settled, ← MergedText.clean.inj h]
    congr 2
    exact List.flatMap_congr fun region hr => render_of_settled _ _ (plain region hr)

lemma mergeText_clean_comm (labels labels' : Labels) {base ours theirs text : String} :
    mergeText labels base ours theirs = .clean text ↔
      mergeText labels' base theirs ours = .clean text :=
  ⟨mergeText_clean_exchanged labels', mergeText_clean_exchanged labels⟩

end GitTutor.Merge
