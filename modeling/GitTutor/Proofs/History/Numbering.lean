import GitTutor.Proofs.History.Ancestry

/-!
The numbers of the commits of a grown history.

Commits are numbered in the order in which they were made, so that numbers fall along parent links.
Hence no commit comes back to itself, only the first one has no parents, a log tells of each commit
before its parents, and the newest commit that two others lead to is found by its number
(`mergeBase_eq_some_iff`): it is one of the two exactly if that one is an ancestor of the other.
-/

namespace GitTutor.History

variable {h : History}

namespace Grown

lemma map_seq (hg : Grown h) : h.map (·.seq) = (List.range h.length).reverse := by
  induction hg with
  | nil => rfl
  | cons _ _ seq _ _ _ ih =>
    rw [List.map_cons, ih, seq, List.length_cons, List.range_succ, List.reverse_append]
    rfl

lemma nodup_ids (hg : Grown h) : h.ids.Nodup := by
  induction hg with
  | nil => exact List.nodup_nil
  | cons _ fresh _ _ _ _ ih => exact List.nodup_cons.2 ⟨fresh, ih⟩

lemma pairwise_seq (hg : Grown h) : h.Pairwise fun c d => d.seq < c.seq := by
  induction hg with
  | nil => exact List.Pairwise.nil
  | cons older _ seq _ _ _ ih =>
    exact List.pairwise_cons.2 ⟨fun d hd => seq ▸ older.seq_lt hd, ih⟩

lemma seq_lt_of_parent (hg : Grown h) {c d : Commit} (hc : c ∈ h) (hd : d ∈ h)
    (hp : d.id ∈ c.parents) : d.seq < c.seq := by
  induction hg with
  | nil => simp at hc
  | cons holder fresh seq known rooted trees ih =>
    have hd' := mem_older_of_parent (.cons holder fresh seq known rooted trees) hc hd hp
    rcases List.mem_cons.1 hc with rfl | hc
    · exact seq ▸ holder.seq_lt hd'
    · exact ih hc hd'

lemma seq_lt_of_transGen (hg : Grown h) {c : Commit} (hc : c ∈ h) {b : CommitId}
    (ht : Relation.TransGen (Parent h) c.id b) {d : Commit} (hd : d ∈ h) (hid : d.id = b) :
    d.seq < c.seq := by
  have last : ∀ {a : CommitId} {e : Commit}, e ∈ h → e.id = a → ∀ {b : CommitId},
      Parent h a b → ∀ {d : Commit}, d ∈ h → d.id = b → d.seq < e.seq := by
    rintro a e he hea b ⟨e', he', hid', hb⟩ d hd rfl
    obtain rfl := hg.eq_of_id he' he (hid'.trans hea.symm)
    exact hg.seq_lt_of_parent he' hd hb
  induction ht generalizing d with
  | single hp => exact last hc rfl hp hd hid
  | tail _ hp ih =>
    obtain ⟨e, he, hea, hb⟩ := hp
    exact Nat.lt_trans (last he hea ⟨e, he, hea, hb⟩ hd hid) (ih he hea)

lemma acyclic (hg : Grown h) (a : CommitId) : ¬Relation.TransGen (Parent h) a a := by
  intro ht
  obtain ⟨_, ⟨c, hc, rfl, _⟩, _⟩ := Relation.TransGen.head'_iff.1 ht
  exact Nat.lt_irrefl _ (hg.seq_lt_of_transGen hc ht hc rfl)

lemma eq_or_seq_lt (hg : Grown h) {c d : Commit} (hc : c ∈ h) (hd : d ∈ h)
    (hl : Leads h c.id d.id) : d = c ∨ d.seq < c.seq := by
  rcases Relation.reflTransGen_iff_eq_or_transGen.1 hl with hid | ht
  · exact .inl (hg.eq_of_id hd hc hid)
  · exact .inr (hg.seq_lt_of_transGen hc ht hd rfl)

lemma exists_first (hg : Grown h) (hne : h ≠ []) :
    ∃ c ∈ h, c.seq = 0 ∧ ∀ d ∈ h, d.parents = [] ↔ d = c := by
  induction hg with
  | nil => exact absurd rfl hne
  | @cons front older holder fresh seq known rooted _ ih =>
    by_cases hnil : older = []
    · subst hnil
      refine ⟨front, List.mem_cons_self, seq, fun d hd => ?_⟩
      obtain rfl := List.mem_singleton.1 hd
      have hnone : d.parents = [] :=
        List.eq_nil_iff_forall_not_mem.2 fun p hp => List.not_mem_nil (known p hp)
      exact iff_of_true hnone rfl
    · obtain ⟨c, hc, hzero, hiff⟩ := ih hnil
      refine ⟨c, List.mem_cons_of_mem _ hc, hzero, fun d hd => ?_⟩
      rcases List.mem_cons.1 hd with rfl | hd
      · exact iff_of_false (fun hp => hnil (rooted hp)) fun heq => fresh (heq ▸ mem_ids_of_mem hc)
      · exact hiff d hd

end Grown

/-! ### Logs -/

lemma log_sublist (h : History) (id : CommitId) : (h.log id).Sublist h := List.filter_sublist

lemma sublist_of_seq_lt {log : List Commit} (hp : log.Pairwise fun c d => d.seq < c.seq)
    {c d : Commit} (hc : c ∈ log) (hd : d ∈ log) (hlt : d.seq < c.seq) : [c, d].Sublist log := by
  induction log with
  | nil => simp at hc
  | cons front older ih =>
    obtain ⟨hfront, hp⟩ := List.pairwise_cons.1 hp
    rcases List.mem_cons.1 hd with rfl | behind
    · -- Nothing is newer than the front one.
      rcases List.mem_cons.1 hc with rfl | hc
      · omega
      · have := hfront c hc
        omega
    · rcases List.mem_cons.1 hc with rfl | hc
      · exact (List.singleton_sublist.2 behind).cons_cons c
      · exact (ih hp hc behind).cons front

namespace Grown

lemma pairwise_log (hg : Grown h) (id : CommitId) :
    (h.log id).Pairwise fun c d => d.seq < c.seq :=
  hg.pairwise_seq.sublist (log_sublist h id)

lemma nodup_log (hg : Grown h) (id : CommitId) : (h.log id).Nodup := by
  refine (hg.pairwise_log id).imp fun hlt => ?_
  rintro rfl
  exact Nat.lt_irrefl _ hlt

lemma log_eq_of_subset {h' : History} (hg : Grown h) (hg' : Grown h') (hs : h ⊆ h') {id : CommitId}
    (known : id ∈ h.ids) : h'.log id = h.log id := by
  have members : ∀ c, c ∈ h'.log id ↔ c ∈ h.log id := by
    intro c
    rw [mem_log_iff hg', mem_log_iff hg, hg.leads_iff_of_subset hg' hs known]
    refine and_congr_left fun hl => ⟨fun hc => ?_, fun hc => hs hc⟩
    obtain ⟨d, hd, same⟩ := mem_ids_iff.1 (hg.mem_of_leads known hl)
    exact hg'.eq_of_id (hs hd) hc same ▸ hd
  have perm := (List.perm_ext_iff_of_nodup (hg'.nodup_log id) (hg.nodup_log id)).2 members
  -- Both logs tell of newer commits first.
  refine perm.eq_of_pairwise (fun c d _ _ hlt hlt' => ?_) (hg'.pairwise_log id) (hg.pairwise_log id)
  omega

lemma exists_log_eq_cons (hg : Grown h) {id : CommitId} (known : id ∈ h.ids) :
    ∃ c older, h.log id = c :: older ∧ c.id = id := by
  obtain ⟨c, hc, rfl⟩ := mem_ids_iff.1 known
  have listed : c ∈ h.log c.id := (mem_log_iff hg).2 ⟨hc, Leads.refl h c.id⟩
  have hp := hg.pairwise_log c.id
  cases hlog : h.log c.id with
  | nil =>
    rw [hlog] at listed
    exact absurd listed List.not_mem_nil
  | cons front older =>
    rw [hlog] at listed hp
    obtain ⟨hfront, hl⟩ := (mem_log_iff hg).1 (hlog ▸ List.mem_cons_self : front ∈ h.log c.id)
    rcases List.mem_cons.1 listed with rfl | behind
    · exact ⟨c, older, rfl, rfl⟩
    · -- What the commit leads to is not newer than it.
      have hlt := (List.pairwise_cons.1 hp).1 c behind
      rcases hg.eq_or_seq_lt hc hfront hl with rfl | hlt'
      · exact ⟨front, older, rfl, rfl⟩
      · omega

lemma parent_listed_later (hg : Grown h) {id p : CommitId} {c : Commit} (listed : c ∈ h.log id)
    (hp : p ∈ c.parents) : ∃ d, d.id = p ∧ [c, d].Sublist (h.log id) := by
  obtain ⟨hc, hl⟩ := (mem_log_iff hg).1 listed
  have link : Parent h c.id p := ⟨c, hc, rfl, hp⟩
  obtain ⟨d, hd, rfl⟩ := mem_ids_iff.1 (hg.parent_mem link)
  have listed' : d ∈ h.log id := (mem_log_iff hg).2 ⟨hd, hl.tail link⟩
  exact ⟨d, rfl, sublist_of_seq_lt (hg.pairwise_log id) listed listed'
    (hg.seq_lt_of_parent hc hd hp)⟩

end Grown

/-! ### The newest common ancestor -/

lemma newest?_eq_some_iff (hp : h.Pairwise fun c d => d.seq < c.seq) {c : Commit} :
    newest? h = some c ↔ c ∈ h ∧ ∀ d ∈ h, d.seq ≤ c.seq := by
  cases h with
  | nil => simp [newest?]
  | cons front older =>
    obtain ⟨hfront, -⟩ := List.pairwise_cons.1 hp
    -- No other commit has the number of the front one.
    have hnone : older.takeWhile (fun d => d.seq = front.seq) = [] := by
      cases older with
      | nil => rfl
      | cons d older =>
        have := hfront d List.mem_cons_self
        rw [List.takeWhile_cons_of_neg]
        rw [decide_eq_true_eq]
        omega
    rw [newest?, hnone, List.getLastD_nil, Option.some.injEq]
    constructor
    · rintro rfl
      refine ⟨List.mem_cons_self, fun d hd => ?_⟩
      rcases List.mem_cons.1 hd with rfl | hd
      · exact Nat.le_refl _
      · exact Nat.le_of_lt (hfront d hd)
    · rintro ⟨hc, hmax⟩
      rcases List.mem_cons.1 hc with rfl | hc
      · rfl
      · have := hfront c hc
        have := hmax front List.mem_cons_self
        omega

lemma mergeBase_comm (h : History) (a b : CommitId) : h.mergeBase a b = h.mergeBase b a := by
  simp only [mergeBase, and_comm]

namespace Grown

/-- The merge base of two commits is the newest of those that both lead to. -/
lemma mergeBase_eq_some_iff (hg : Grown h) {a b : CommitId} {c : Commit} (hc : c ∈ h) :
    h.mergeBase a b = some c.id ↔ (Leads h a c.id ∧ Leads h b c.id) ∧
      ∀ d ∈ h, Leads h a d.id ∧ Leads h b d.id → d.seq ≤ c.seq := by
  have hcommon : ∀ d : Commit,
      (d ∈ h.filter fun d => d.id ∈ h.ancestors a ∧ d.id ∈ h.ancestors b) ↔
        d ∈ h ∧ Leads h a d.id ∧ Leads h b d.id := by
    intro d
    rw [List.mem_filter, decide_eq_true_eq, mem_ancestors_iff hg, mem_ancestors_iff hg]
  simp only [mergeBase, Option.map_eq_some_iff, newest?_eq_some_iff (hg.pairwise_seq.filter _),
    hcommon]
  constructor
  · rintro ⟨d, ⟨⟨hd, hl⟩, hmax⟩, hid⟩
    obtain rfl := hg.eq_of_id hd hc hid
    exact ⟨hl, fun e he hle => hmax e ⟨he, hle⟩⟩
  · rintro ⟨hl, hmax⟩
    exact ⟨c, ⟨⟨hc, hl⟩, fun e he => hmax e he.1 he.2⟩, rfl⟩

lemma mergeBase_eq_right_iff (hg : Grown h) {a b : CommitId} (hb : b ∈ h.ids) :
    h.mergeBase a b = some b ↔ Leads h a b := by
  obtain ⟨c, hc, rfl⟩ := mem_ids_iff.1 hb
  rw [hg.mergeBase_eq_some_iff hc]
  constructor
  · exact fun hm => hm.1.1
  · intro hl
    refine ⟨⟨hl, Leads.refl h c.id⟩, fun d hd hcommon => ?_⟩
    rcases hg.eq_or_seq_lt hc hd hcommon.2 with rfl | hlt
    · exact Nat.le_refl _
    · exact Nat.le_of_lt hlt

lemma mergeBase_eq_left_iff (hg : Grown h) {a b : CommitId} (ha : a ∈ h.ids) :
    h.mergeBase a b = some a ↔ Leads h b a := by
  rw [mergeBase_comm, hg.mergeBase_eq_right_iff ha]

end Grown

end GitTutor.History
