import GitTutor.Proofs.Merge.Exchange
import Mathlib.Data.List.Basic
import Mathlib.Data.List.Defs

/-!
What a merge shows of each side.

Outside of disputes both sides show the same lines. Where a merge goes line by line, a side shows
its own line if it has changed the base and the line of the other side if it has not
(`preferring`). Where it goes by one block, both sides are shown as they are, or one of them for
both. So a side that has kept the base adds nothing to a merge, and the other side comes out as it
is (`mergeText_kept`).
-/

namespace GitTutor.Merge

open GitTutor.Text

inductive Side where
  | ours
  | theirs
  deriving DecidableEq

def Side.other : Side → Side
  | ours => theirs
  | theirs => ours

def Region.side : Side → Region → List Line
  | _, .settled lines => lines
  | .ours, .disputed ours _ => ours
  | .theirs, .disputed _ theirs => theirs

/-- The lines that regions show of a side. -/
def sideLines (side : Side) (rs : List Region) : List Line := rs.flatMap (Region.side side)

/-- The lines of one side, and those of the other where it has kept the base. -/
def preferring (base own other : List Line) : List Line :=
  List.zipWith3 (fun b own other => if own = b then other else own) base own other

variable {side : Side} {rs : List Region} {base ours theirs own other : List Line}

/-- The versions have equally many lines. -/
def Aligned (base ours theirs : List Line) : Prop :=
  base.length = ours.length ∧ base.length = theirs.length

lemma Aligned.exchanged (h : Aligned base ours theirs) : Aligned base theirs ours := ⟨h.2, h.1⟩

lemma regions_of_aligned (h : Aligned base ours theirs) :
    regions base ours theirs = byLine base ours theirs := if_pos h

lemma regions_of_uneven (h : ¬Aligned base ours theirs) :
    regions base ours theirs = byBlock base ours theirs := if_neg h

@[simp] lemma sideLines_nil (side : Side) : sideLines side [] = [] := rfl

@[simp] lemma sideLines_cons (side : Side) (region : Region) (rs : List Region) :
    sideLines side (region :: rs) = region.side side ++ sideLines side rs := rfl

lemma side_exchanged (side : Side) (region : Region) :
    region.exchanged.side side = region.side side.other := by
  cases side <;> cases region <;> rfl

lemma sideLines_exchanged (side : Side) (rs : List Region) :
    sideLines side (rs.map .exchanged) = sideLines side.other rs := by
  rw [sideLines, List.flatMap_map]
  exact List.flatMap_congr fun region _ => side_exchanged side region

@[simp] lemma isDisputed_exchanged (region : Region) :
    region.exchanged.isDisputed = region.isDisputed := by
  cases region <;> rfl

lemma eq_settled {region : Region} (agreed : region.isDisputed = false) (side : Side) :
    region = .settled (region.side side) := by
  cases region with
  | settled lines => rfl
  | disputed ours theirs => cases agreed

lemma render_of_agreed (labels : Labels) (side : Side)
    (agreed : ∀ region ∈ rs, region.isDisputed = false) :
    rs.flatMap (Region.render labels) = (sideLines side rs).flatten := by
  rw [sideLines, ← List.flatMap_id, List.flatMap_assoc]
  refine List.flatMap_congr fun region h => ?_
  rw [eq_settled (agreed region h) side]
  exact List.flatMap_id.symm

/-! ### Picks -/

section

variable {α : Type} [DecidableEq α] {b o t picked : α}

lemma eq_of_pick (h : pick b o t = some picked) : picked = if o = b then t else o := by
  unfold pick at h
  by_cases same : o = t ∨ t = b
  · rw [if_pos same] at h
    obtain rfl := Option.some.inj h
    split_ifs with kept
    · exact same.elim id fun ht => kept.trans ht.symm
    · rfl
  · rw [if_neg same] at h
    split_ifs at h ⊢ with kept
    exact (Option.some.inj h).symm

end

/-! ### Line by line -/

lemma sideLines_dispute (o t : Line) (rs : List Region) :
    sideLines .ours (dispute o t rs) = o :: sideLines .ours rs := by
  match rs with
  | [] => rfl
  | .settled lines :: rest => rfl
  | .disputed os ts :: rest => rfl

lemma any_dispute (o t : Line) (rs : List Region) :
    (dispute o t rs).any Region.isDisputed = true := by
  match rs with
  | [] => rfl
  | .settled lines :: rest => rfl
  | .disputed os ts :: rest => rfl

lemma head_of_mem_dispute {o t : Line} {os ts : List Line}
    (h : .disputed os ts ∈ dispute o t rs) :
    (os.head? = some o ∧ ts.head? = some t) ∨ .disputed os ts ∈ rs := by
  match rs with
  | [] =>
    obtain ⟨rfl, rfl⟩ : os = [o] ∧ ts = [t] := by simpa [dispute] using h
    exact .inl ⟨rfl, rfl⟩
  | .settled lines :: rest =>
    rcases List.mem_cons.1 h with h | h
    · obtain ⟨rfl, rfl⟩ := Region.disputed.inj h
      exact .inl ⟨rfl, rfl⟩
    · exact .inr h
  | .disputed os' ts' :: rest =>
    rcases List.mem_cons.1 h with h | h
    · obtain ⟨rfl, rfl⟩ := Region.disputed.inj h
      exact .inl ⟨rfl, rfl⟩
    · exact .inr (List.mem_cons_of_mem _ h)

lemma sideLines_byLine (base ours theirs : List Line) :
    sideLines .ours (byLine base ours theirs) = preferring base ours theirs := by
  induction base generalizing ours theirs with
  | nil => cases ours <;> cases theirs <;> rfl
  | cons b bs ih =>
    match ours, theirs with
    | [], [] => rfl
    | [], t :: ts => rfl
    | o :: os, [] => rfl
    | o :: os, t :: ts =>
      rw [byLine, preferring, List.zipWith3, ← preferring, ← ih]
      cases hp : pick b o t with
      | some line => rw [sideLines_cons, ← eq_of_pick hp]; rfl
      | none => rw [sideLines_dispute, if_neg (pick_none_iff.1 hp).2.2]

lemma any_byLine (aligned : Aligned base ours theirs) :
    (byLine base ours theirs).any Region.isDisputed = true ↔
      ∃ i : Nat, ours[i]? ≠ theirs[i]? ∧ theirs[i]? ≠ base[i]? ∧ ours[i]? ≠ base[i]? := by
  obtain ⟨hours, htheirs⟩ := aligned
  induction base generalizing ours theirs with
  | nil =>
    obtain rfl := List.length_eq_zero_iff.1 hours.symm
    obtain rfl := List.length_eq_zero_iff.1 htheirs.symm
    simp [byLine]
  | cons b bs ih =>
    obtain ⟨o, os, rfl⟩ := List.exists_cons_of_length_eq_add_one hours.symm
    obtain ⟨t, ts, rfl⟩ := List.exists_cons_of_length_eq_add_one htheirs.symm
    have ih := ih (Nat.succ.inj hours) (Nat.succ.inj htheirs)
    rw [byLine, ← Nat.or_exists_add_one]
    cases hp : pick b o t with
    | some line =>
      have agreed : ¬(o ≠ t ∧ t ≠ b ∧ o ≠ b) := by
        rw [← pick_none_iff, hp]
        exact Option.some_ne_none line
      simp [ih, Region.isDisputed, agreed]
    | none =>
      have apart := pick_none_iff.1 hp
      simp [any_dispute, apart]

/-! ### By one block -/

lemma shared_prefix (base ours theirs : List Line) :
    shared base ours theirs <+: base ∧ shared base ours theirs <+: ours ∧
      shared base ours theirs <+: theirs := by
  induction base generalizing ours theirs with
  | nil => exact ⟨List.nil_prefix, List.nil_prefix, List.nil_prefix⟩
  | cons b bs ih =>
    match ours, theirs with
    | [], _ => exact ⟨List.nil_prefix, List.nil_prefix, List.nil_prefix⟩
    | o :: os, [] => exact ⟨List.nil_prefix, List.nil_prefix, List.nil_prefix⟩
    | o :: os, t :: ts =>
      rw [shared]
      split_ifs with same
      · obtain ⟨rfl, rfl⟩ := same
        obtain ⟨hb, ho, ht⟩ := ih os ts
        exact ⟨List.cons_prefix_cons.2 ⟨rfl, hb⟩, List.cons_prefix_cons.2 ⟨rfl, ho⟩,
          List.cons_prefix_cons.2 ⟨rfl, ht⟩⟩
      · exact ⟨List.nil_prefix, List.nil_prefix, List.nil_prefix⟩

lemma eq_blocks {top bottom version : List Line} (htop : top <+: version)
    (hbottom : bottom.reverse <+: (version.drop top.length).reverse) :
    version = top ++ (version.drop top.length).take
      ((version.drop top.length).length - bottom.length) ++ bottom := by
  have hrest := List.prefix_iff_eq_append.1 htop
  have hblock := List.suffix_iff_eq_append.1 (List.reverse_prefix.1 hbottom)
  rw [List.append_assoc, hblock, hrest]

/-- What all three versions start and end with is set aside, and the blocks between are merged. -/
lemma exists_blocks (base ours theirs : List Line) :
    ∃ top b o t bottom, base = top ++ b ++ bottom ∧ ours = top ++ o ++ bottom ∧
      theirs = top ++ t ++ bottom ∧ byBlock base ours theirs = [.settled top,
        (match pick b o t with
          | some lines => .settled lines
          | none => .disputed o t), .settled bottom] := by
  obtain ⟨hb, ho, ht⟩ := shared_prefix base ours theirs
  set top := shared base ours theirs with htop
  obtain ⟨hb', ho', ht'⟩ := shared_prefix (base.drop top.length).reverse
    (ours.drop top.length).reverse (theirs.drop top.length).reverse
  rw [← List.reverse_reverse (shared (base.drop top.length).reverse _ _)] at hb' ho' ht'
  exact ⟨top, _, _, _, _, eq_blocks hb hb', eq_blocks ho ho', eq_blocks ht ht', rfl⟩

lemma byBlock_cases (base ours theirs : List Line) :
    (∃ top o t bottom, byBlock base ours theirs = [.settled top, .disputed o t, .settled bottom] ∧
        ours = top ++ o ++ bottom ∧ theirs = top ++ t ++ bottom ∧
        ours ≠ theirs ∧ theirs ≠ base ∧ ours ≠ base) ∨
      ∃ top block bottom,
        byBlock base ours theirs = [.settled top, .settled block, .settled bottom] ∧
        top ++ block ++ bottom = if ours = base then theirs else ours := by
  obtain ⟨top, b, o, t, bottom, rfl, rfl, rfl, h⟩ := exists_blocks base ours theirs
  have cancel : ∀ x y : List Line, top ++ x ++ bottom = top ++ y ++ bottom ↔ x = y := by simp
  rw [h]
  cases hp : pick b o t with
  | none =>
    obtain ⟨hot, htb, hob⟩ := pick_none_iff.1 hp
    exact .inl ⟨top, o, t, bottom, rfl, rfl, rfl, mt (cancel o t).1 hot, mt (cancel t b).1 htb,
      mt (cancel o b).1 hob⟩
  | some block =>
    refine .inr ⟨top, block, bottom, rfl, ?_⟩
    rw [eq_of_pick hp, if_congr (cancel o b) rfl rfl]
    split_ifs <;> rfl

/-! ### The regions of a merge -/

lemma sideLines_theirs (base ours theirs : List Line) :
    sideLines .theirs (regions base ours theirs) = sideLines .ours (regions base theirs ours) := by
  rw [regions_comm base ours theirs, sideLines_exchanged]
  rfl

lemma sideLines_byBlock (base ours theirs : List Line) :
    sideLines .ours (byBlock base ours theirs) = ours ∨
      sideLines .ours (byBlock base ours theirs) = theirs := by
  rcases byBlock_cases base ours theirs with
    ⟨top, o, t, bottom, hblock, hours, -⟩ | ⟨top, block, bottom, hblock, whole⟩
  · rw [hblock, hours]
    simp [Region.side]
  · have : sideLines .ours (byBlock base ours theirs) = if ours = base then theirs else ours := by
      simp [hblock, ← whole, Region.side]
    rw [this]
    split_ifs
    · exact .inr rfl
    · exact .inl rfl

lemma mem_of_mem_preferring {line : Line} (h : line ∈ preferring base own other) :
    line ∈ own ∨ line ∈ other := by
  induction base generalizing own other with
  | nil => cases own <;> cases other <;> cases h
  | cons b bs ih =>
    match own, other with
    | [], [] => cases h
    | [], t :: ts => cases h
    | o :: os, [] => cases h
    | o :: os, t :: ts =>
      rw [preferring, List.zipWith3, ← preferring, List.mem_cons] at h
      rcases h with h | h
      · split_ifs at h
        · exact .inr (h ▸ List.mem_cons_self)
        · exact .inl (h ▸ List.mem_cons_self)
      · exact (ih h).imp (List.mem_cons_of_mem _) (List.mem_cons_of_mem _)

lemma sideLines_cases (side : Side) (base ours theirs : List Line) :
    (sideLines side (regions base ours theirs) = ours ∨
        sideLines side (regions base ours theirs) = theirs) ∨
      Aligned base ours theirs ∧
        (sideLines side (regions base ours theirs) = preferring base ours theirs ∨
          sideLines side (regions base ours theirs) = preferring base theirs ours) := by
  cases side with
  | ours =>
    by_cases aligned : Aligned base ours theirs
    · rw [regions_of_aligned aligned, sideLines_byLine]
      exact .inr ⟨aligned, .inl rfl⟩
    · rw [regions_of_uneven aligned]
      exact .inl (sideLines_byBlock base ours theirs)
  | theirs =>
    rw [sideLines_theirs]
    by_cases aligned : Aligned base ours theirs
    · rw [regions_of_aligned aligned.exchanged, sideLines_byLine]
      exact .inr ⟨aligned, .inr rfl⟩
    · rw [regions_of_uneven (mt Aligned.exchanged aligned)]
      exact .inl (sideLines_byBlock base theirs ours).symm

lemma mem_of_mem_sideLines {line : Line} (h : line ∈ sideLines side (regions base ours theirs)) :
    line ∈ ours ∨ line ∈ theirs := by
  rcases sideLines_cases side base ours theirs with (hside | hside) | ⟨-, hside | hside⟩
  · exact .inl (hside ▸ h)
  · exact .inr (hside ▸ h)
  · exact mem_of_mem_preferring (hside ▸ h)
  · exact (mem_of_mem_preferring (hside ▸ h)).symm

lemma ne_of_disputed_byLine {os ts : List Line} (h : .disputed os ts ∈ byLine base ours theirs) :
    os ≠ ts := by
  induction base generalizing ours theirs os ts with
  | nil => cases ours <;> cases theirs <;> cases h
  | cons b bs ih =>
    match ours, theirs with
    | [], [] => cases h
    | [], t :: ts' => cases h
    | o :: os', [] => cases h
    | o :: os', t :: ts' =>
      rw [byLine] at h
      cases hp : pick b o t with
      | some line =>
        rw [hp] at h
        exact ih ((List.mem_cons.1 h).resolve_left Region.noConfusion)
      | none =>
        rw [hp] at h
        rcases head_of_mem_dispute h with ⟨ho, ht⟩ | h
        · rintro rfl
          exact (pick_none_iff.1 hp).1 (Option.some.inj (ho.symm.trans ht))
        · exact ih h

lemma ne_of_disputed {os ts : List Line} (h : .disputed os ts ∈ regions base ours theirs) :
    os ≠ ts := by
  by_cases aligned : Aligned base ours theirs
  · exact ne_of_disputed_byLine (regions_of_aligned aligned ▸ h)
  · rw [regions_of_uneven aligned] at h
    rcases byBlock_cases base ours theirs with
      ⟨top, o, t, bottom, hblock, rfl, rfl, hot, -⟩ | ⟨top, block, bottom, hblock, -⟩
    · rw [hblock] at h
      obtain ⟨rfl, rfl⟩ : os = o ∧ ts = t := by simpa using h
      rintro rfl
      exact hot rfl
    · rw [hblock] at h
      simp at h

/-! ### A side that has kept the base -/

lemma preferring_eq_own (length : base.length = own.length) (h : own = other ∨ other = base) :
    preferring base own other = own := by
  induction base generalizing own other with
  | nil =>
    obtain rfl := List.length_eq_zero_iff.1 length.symm
    cases other <;> rfl
  | cons b bs ih =>
    obtain ⟨o, os, rfl⟩ := List.exists_cons_of_length_eq_add_one length.symm
    rcases h with rfl | rfl
    · have rest := ih (Nat.succ.inj length) (.inl rfl)
      rw [preferring] at rest ⊢
      rw [List.zipWith3, rest, ite_self]
    · have rest := ih (Nat.succ.inj length) (.inr rfl)
      rw [preferring] at rest ⊢
      rw [List.zipWith3, rest]
      split_ifs with same
      · rw [same]
      · rfl

lemma regions_kept (h : ours = theirs ∨ theirs = base) :
    (regions base ours theirs).any Region.isDisputed = false ∧
      sideLines .ours (regions base ours theirs) = ours := by
  by_cases aligned : Aligned base ours theirs
  · rw [regions_of_aligned aligned]
    refine ⟨?_, ?_⟩
    · rw [← Bool.not_eq_true, any_byLine aligned]
      rintro ⟨i, hot, htb, -⟩
      rcases h with rfl | rfl
      · exact hot rfl
      · exact htb rfl
    · rw [sideLines_byLine, preferring_eq_own aligned.1 h]
  · rw [regions_of_uneven aligned]
    rcases byBlock_cases base ours theirs with
      ⟨top, o, t, bottom, -, -, -, hot, htb, -⟩ | ⟨top, block, bottom, hblock, whole⟩
    · exact absurd h (not_or.2 ⟨hot, htb⟩)
    · rw [hblock]
      refine ⟨rfl, ?_⟩
      have settled : top ++ block ++ bottom = ours := by
        rw [whole]
        split_ifs with kept
        · exact h.elim Eq.symm fun ht => ht.trans kept.symm
        · rfl
      simpa [Region.side] using settled

/-! ### Texts -/

/-- The lines of a text, with their newlines. -/
abbrev linesOf (text : String) : List Line := pieces text.toList

/-- The regions of a merge of texts. -/
def textRegions (base ours theirs : String) : List Region :=
  regions (linesOf base) (linesOf ours) (linesOf theirs)

/-- The text that shows regions. -/
def written (labels : Labels) (rs : List Region) : String :=
  String.ofList (rs.flatMap (Region.render labels))

variable {labels : Labels}

lemma mergeText_eq (labels : Labels) (base ours theirs : String) :
    mergeText labels base ours theirs =
      if (textRegions base ours theirs).any Region.isDisputed then
        .conflict (written labels (textRegions base ours theirs))
      else .clean (written labels (textRegions base ours theirs)) := rfl

lemma mergeText_eq_conflict_iff {base ours theirs text : String} :
    mergeText labels base ours theirs = .conflict text ↔
      (textRegions base ours theirs).any Region.isDisputed = true ∧
        text = written labels (textRegions base ours theirs) := by
  rw [mergeText_eq]
  split_ifs with disputed
  · rw [MergedText.conflict.injEq, eq_comm, and_iff_right disputed]
  · exact iff_of_false (by simp) fun h => disputed h.1

lemma mergeText_eq_clean_iff {base ours theirs text : String} :
    mergeText labels base ours theirs = .clean text ↔
      (textRegions base ours theirs).any Region.isDisputed = false ∧
        text = written labels (textRegions base ours theirs) := by
  rw [mergeText_eq]
  split_ifs with disputed
  · exact iff_of_false (by simp) fun h => by simp [disputed] at h
  · rw [MergedText.clean.injEq, eq_comm, and_iff_right (Bool.not_eq_true _ ▸ disputed)]

lemma mergeText_kept (labels : Labels) {base ours theirs : String}
    (h : ours = theirs ∨ theirs = base) : mergeText labels base ours theirs = .clean ours := by
  have lists : linesOf ours = linesOf theirs ∨ linesOf theirs = linesOf base :=
    h.imp (congrArg linesOf) (congrArg linesOf)
  obtain ⟨agreed, lines⟩ := regions_kept lists
  refine mergeText_eq_clean_iff.2 ⟨agreed, ?_⟩
  rw [written, textRegions, render_of_agreed labels .ours (by simpa using agreed), lines,
    flatten_pieces, String.ofList_toList]

def Labels.exchanged (labels : Labels) : Labels := ⟨labels.theirs, labels.ours⟩

/-- **The laws of three-way merges hold byte for byte.** A side that has kept the base leaves the
other side as it is, and so do sides that agree. With the sides exchanged, a clean merge gives the
same text, and one with conflicts the text of the same regions with their sides and labels
exchanged. -/
theorem three_way_laws (labels labels' : Labels) (base x ours theirs : String) :
    mergeText labels base x base = .clean x ∧ mergeText labels base base x = .clean x ∧
      mergeText labels base x x = .clean x ∧
      (∀ text, mergeText labels base ours theirs = .clean text ↔
        mergeText labels' base theirs ours = .clean text) ∧
      ∀ text, mergeText labels base ours theirs = .conflict text ↔
        text = written labels (textRegions base ours theirs) ∧
          mergeText labels.exchanged base theirs ours = .conflict
            (written labels.exchanged ((textRegions base ours theirs).map .exchanged)) := by
  refine ⟨mergeText_kept labels (.inr rfl), ?_, mergeText_kept labels (.inl rfl),
    fun text => mergeText_clean_comm labels labels', fun text => ?_⟩
  · exact (mergeText_clean_comm labels labels).1 (mergeText_kept labels (.inr rfl))
  · have regions : textRegions base theirs ours = (textRegions base ours theirs).map .exchanged :=
      regions_comm _ _ _
    have disputed : ((textRegions base ours theirs).map .exchanged).any Region.isDisputed =
        (textRegions base ours theirs).any Region.isDisputed := by
      rw [List.any_map]
      exact congrArg _ (funext isDisputed_exchanged)
    rw [mergeText_eq_conflict_iff, mergeText_eq_conflict_iff, regions, disputed, and_comm,
      eq_self, and_true]

end GitTutor.Merge
