import GitTutor.Repository.History
import GitTutor.Proofs.Table.Within
import Mathlib.Logic.Relation

/-!
Ancestry in histories that grow commit by commit.

`Leads h a b` says that parent links come from `a` to `b`. In a grown history, where a commit is
put in front of its parents, one round of the search finds all that a commit leads to, so that
the search and the relation agree (`mem_ancestors_iff`).
-/

namespace GitTutor.History

/-- `parent` is among the parents that the commit `child` records. -/
def Parent (h : History) (child parent : CommitId) : Prop :=
  ∃ c ∈ h, c.id = child ∧ parent ∈ c.parents

/-- Parent links come from `a` to `b`, perhaps in no step at all. -/
def Leads (h : History) : CommitId → CommitId → Prop := Relation.ReflTransGen (Parent h)

lemma Parent.mono {g h : History} (hs : g ⊆ h) {a b : CommitId} (hp : Parent g a b) :
    Parent h a b := by
  obtain ⟨c, hc, hp⟩ := hp
  exact ⟨c, hs hc, hp⟩

lemma Leads.refl (h : History) (a : CommitId) : Leads h a a := Relation.ReflTransGen.refl

lemma Leads.mono {g h : History} (hs : g ⊆ h) {a b : CommitId} (hl : Leads g a b) :
    Leads h a b :=
  Relation.ReflTransGen.mono (fun _ _ => Parent.mono hs) a b hl

lemma Leads.parent_of_front {c : Commit} {older : History} {p : CommitId} (hp : p ∈ c.parents) :
    Leads (c :: older) c.id p :=
  Relation.ReflTransGen.single ⟨c, List.mem_cons_self, rfl, hp⟩

/-! ### The search finds nothing else -/

lemma passed_sublist (h : History) (wanted : List CommitId) : (walk h wanted).2.Sublist h := by
  induction h generalizing wanted with
  | nil => simp [walk]
  | cons c older ih =>
    by_cases hc : c.id ∈ wanted
    · simp only [walk, hc, if_true]
      exact (ih _).cons c
    · simp only [walk, hc, if_false]
      exact (ih wanted).cons_cons c

lemma subset_walk (h : History) (wanted : List CommitId) : wanted ⊆ (walk h wanted).1 := by
  induction h generalizing wanted with
  | nil => simp [walk]
  | cons c older ih =>
    by_cases hc : c.id ∈ wanted
    · simp only [walk, hc, if_true]
      exact fun x hx => ih _ (List.mem_append_right _ hx)
    · simpa only [walk, hc, if_false] using ih wanted

lemma walk_sound {h : History} {wanted : List CommitId} {b : CommitId}
    (hb : b ∈ (walk h wanted).1) : ∃ a ∈ wanted, Leads h a b := by
  induction h generalizing wanted with
  | nil => exact ⟨b, by simpa [walk] using hb, Leads.refl _ b⟩
  | cons c older ih =>
    have hsub : older ⊆ c :: older := List.subset_cons_self c older
    by_cases hc : c.id ∈ wanted
    · simp only [walk, hc, if_true] at hb
      obtain ⟨a, ha, hl⟩ := ih hb
      rcases List.mem_append.1 ha with ha | ha
      · exact ⟨c.id, hc, (Leads.parent_of_front ha).trans (hl.mono hsub)⟩
      · exact ⟨a, ha, hl.mono hsub⟩
    · simp only [walk, hc, if_false] at hb
      obtain ⟨a, ha, hl⟩ := ih hb
      exact ⟨a, ha, hl.mono hsub⟩

lemma closure_sound {rounds : Nat} {h : History} {wanted : List CommitId} {b : CommitId}
    (hb : b ∈ closure rounds h wanted) : ∃ a ∈ wanted, Leads h a b := by
  induction rounds generalizing h wanted with
  | zero => exact ⟨b, hb, Leads.refl _ b⟩
  | succ rounds ih =>
    simp only [closure] at hb
    split at hb
    · exact ⟨b, hb, Leads.refl _ b⟩
    · obtain ⟨a, ha, hl⟩ := ih hb
      obtain ⟨a', ha', hl'⟩ := walk_sound ha
      exact ⟨a', ha', hl'.trans (hl.mono (passed_sublist h wanted).subset)⟩

/-! ### Grown histories -/

/-- A history built by putting commits in front: each has an id of its own, the next number,
parents among the commits behind it — at least one, unless there are none — and a tree with all
paths of their trees. -/
inductive Grown : History → Prop
  | nil : Grown []
  | cons {c : Commit} {h : History} (older : Grown h) (fresh : c.id ∉ h.ids)
      (seq : c.seq = h.length) (known : ∀ p ∈ c.parents, p ∈ h.ids)
      (rooted : c.parents = [] → h = [])
      (trees : ∀ d ∈ h, d.id ∈ c.parents → d.tree.Within c.tree) : Grown (c :: h)

lemma mem_ids_iff {h : History} {id : CommitId} : id ∈ h.ids ↔ ∃ c ∈ h, c.id = id :=
  List.mem_map

lemma mem_ids_of_mem {h : History} {c : Commit} (hc : c ∈ h) : c.id ∈ h.ids :=
  mem_ids_iff.2 ⟨c, hc, rfl⟩

namespace Grown

variable {h : History}

lemma seq_lt (hg : Grown h) {c : Commit} (hc : c ∈ h) : c.seq < h.length := by
  induction hg with
  | nil => simp at hc
  | cons _ _ seq _ _ _ ih =>
    rw [List.length_cons]
    rcases List.mem_cons.1 hc with rfl | hc
    · omega
    · have := ih hc
      omega

lemma eq_of_id (hg : Grown h) {c d : Commit} (hc : c ∈ h) (hd : d ∈ h) (hid : c.id = d.id) :
    c = d := by
  induction hg with
  | nil => simp at hc
  | cons _ fresh _ _ _ _ ih =>
    rcases List.mem_cons.1 hc with rfl | hc' <;> rcases List.mem_cons.1 hd with rfl | hd'
    · rfl
    · exact absurd (hid ▸ mem_ids_of_mem hd') fresh
    · exact absurd (hid ▸ mem_ids_of_mem hc') fresh
    · exact ih hc' hd'

lemma find?_iff (hg : Grown h) {id : CommitId} {c : Commit} :
    h.find? id = some c ↔ c ∈ h ∧ c.id = id := by
  constructor
  · intro hf
    exact ⟨List.mem_of_find?_eq_some hf, by simpa using List.find?_some hf⟩
  · rintro ⟨hc, rfl⟩
    have hsome : (h.find? c.id).isSome := by
      rw [find?, List.find?_isSome]
      exact ⟨c, hc, by simp⟩
    obtain ⟨d, hd⟩ := Option.isSome_iff_exists.1 hsome
    have hid : d.id = c.id := by simpa using List.find?_some hd
    rw [hd, hg.eq_of_id (List.mem_of_find?_eq_some hd) hc hid]

lemma parent_mem (hg : Grown h) {a b : CommitId} (hp : Parent h a b) : b ∈ h.ids := by
  induction hg with
  | nil => simp [Parent] at hp
  | cons _ _ _ known _ _ ih =>
    obtain ⟨d, hd, hid, hb⟩ := hp
    rcases List.mem_cons.1 hd with rfl | hd
    · exact List.mem_cons_of_mem _ (known b hb)
    · exact List.mem_cons_of_mem _ (ih ⟨d, hd, hid, hb⟩)

lemma mem_ids_of_leads (hg : Grown h) {a b : CommitId} (hl : Leads h a b) : b = a ∨ b ∈ h.ids := by
  rcases Relation.ReflTransGen.cases_tail hl with rfl | ⟨_, _, hp⟩
  · exact .inl rfl
  · exact .inr (hg.parent_mem hp)

lemma mem_of_leads (hg : Grown h) {a b : CommitId} (known : a ∈ h.ids) (hl : Leads h a b) :
    b ∈ h.ids := by
  rcases hg.mem_ids_of_leads hl with rfl | hb
  · exact known
  · exact hb

lemma leads_iff_of_subset {h' : History} (hg : Grown h) (hg' : Grown h') (hs : h ⊆ h')
    {a b : CommitId} (known : a ∈ h.ids) : Leads h' a b ↔ Leads h a b := by
  refine ⟨fun hl => ?_, Leads.mono hs⟩
  -- An old commit has the parents that it had.
  have link : ∀ {c d}, c ∈ h.ids → Parent h' c d → Parent h c d := by
    rintro c d hc ⟨e, he, rfl, hd⟩
    obtain ⟨e', he', same⟩ := mem_ids_iff.1 hc
    obtain rfl := hg'.eq_of_id (hs he') he same
    exact ⟨e', he', rfl, hd⟩
  induction hl with
  | refl => exact Leads.refl h a
  | tail _ hp ih => exact ih.tail (link (hg.mem_of_leads known ih) hp)

lemma exists_root (hg : Grown h) (hne : h ≠ []) : ∃ root, ∀ a ∈ h.ids, Leads h a root := by
  induction hg with
  | nil => exact absurd rfl hne
  | @cons c older _ _ _ known rooted _ ih =>
    have hsub : older ⊆ c :: older := List.subset_cons_self c older
    by_cases hnil : older = []
    · refine ⟨c.id, fun a ha => ?_⟩
      have : a = c.id := by simpa [hnil, ids] using ha
      exact this ▸ Leads.refl _ a
    · obtain ⟨root, hroot⟩ := ih hnil
      refine ⟨root, fun a ha => ?_⟩
      rcases List.mem_cons.1 ha with rfl | ha
      · obtain ⟨p, hp⟩ := List.exists_mem_of_ne_nil _ fun hn => hnil (rooted hn)
        exact (Leads.parent_of_front hp).trans ((hroot p (known p hp)).mono hsub)
      · exact (hroot a ha).mono hsub

lemma mem_older_of_parent {front c d : Commit} {older : History} (hg : Grown (front :: older))
    (hc : c ∈ front :: older) (hd : d ∈ front :: older) (hp : d.id ∈ c.parents) : d ∈ older := by
  obtain _ | ⟨holder, fresh, -, known, -, -⟩ := hg
  have hin : d.id ∈ older.ids := by
    rcases List.mem_cons.1 hc with rfl | hc
    · exact known _ hp
    · exact holder.parent_mem ⟨c, hc, rfl, hp⟩
  rcases List.mem_cons.1 hd with rfl | hd
  · exact absurd hin fresh
  · exact hd

lemma tree_within_of_parent (hg : Grown h) {c d : Commit} (hc : c ∈ h) (hd : d ∈ h)
    (hp : d.id ∈ c.parents) : d.tree.Within c.tree := by
  induction hg with
  | nil => simp at hc
  | cons holder fresh seq known rooted trees ih =>
    have hd' := mem_older_of_parent (.cons holder fresh seq known rooted trees) hc hd hp
    rcases List.mem_cons.1 hc with rfl | hc
    · exact trees d hd' hp
    · exact ih hc hd'

/-! ### The search finds everything -/

lemma walk_closed (hg : Grown h) {wanted : List CommitId} {a b : CommitId}
    (ha : a ∈ (walk h wanted).1) (hp : Parent h a b) : b ∈ (walk h wanted).1 := by
  induction hg generalizing wanted with
  | nil => simp [Parent] at hp
  | @cons c older holder fresh _ _ _ _ ih =>
    obtain ⟨d, hd, rfl, hb⟩ := hp
    by_cases hc : c.id ∈ wanted
    · simp only [walk, hc, if_true] at ha ⊢
      rcases List.mem_cons.1 hd with rfl | hd
      · exact subset_walk older _ (List.mem_append_left _ hb)
      · exact ih ha ⟨d, hd, rfl, hb⟩
    · simp only [walk, hc, if_false] at ha ⊢
      rcases List.mem_cons.1 hd with rfl | hd
      · -- Nothing behind a commit leads to it.
        obtain ⟨a, hw, hl⟩ := walk_sound ha
        rcases holder.mem_ids_of_leads hl with heq | hin
        · exact absurd (heq ▸ hw) hc
        · exact absurd hin fresh
      · exact ih ha ⟨d, hd, rfl, hb⟩

end Grown

lemma walk_eq_of_passed {h : History} {wanted : List CommitId}
    (hlen : (walk h wanted).2.length = h.length) : (walk h wanted).1 = wanted := by
  induction h generalizing wanted with
  | nil => rfl
  | cons c older ih =>
    by_cases hc : c.id ∈ wanted
    · simp only [walk, hc, if_true, List.length_cons] at hlen
      have := (passed_sublist older (c.parents ++ wanted)).length_le
      omega
    · simp only [walk, hc, if_false, List.length_cons, Nat.add_right_cancel_iff] at hlen ⊢
      exact ih hlen

lemma subset_closure (rounds : Nat) (h : History) (wanted : List CommitId) :
    wanted ⊆ closure rounds h wanted := by
  induction rounds generalizing h wanted with
  | zero => exact List.Subset.refl _
  | succ rounds ih =>
    simp only [closure]
    split
    · exact List.Subset.refl _
    · exact fun x hx => ih _ _ (subset_walk h wanted hx)

lemma walk_subset_closure (h : History) (wanted : List CommitId) :
    (walk h wanted).1 ⊆ closure h.length h wanted := by
  cases h with
  | nil => simp [walk, closure]
  | cons c older =>
    simp only [List.length_cons, closure]
    by_cases hlen : (walk (c :: older) wanted).2.length = older.length + 1
    · rw [if_pos hlen, walk_eq_of_passed hlen]
      exact List.Subset.refl _
    · rw [if_neg hlen]
      exact subset_closure _ _ _

/-- **The search for ancestors finds exactly what parent links lead to.** -/
theorem mem_ancestors_iff {h : History} (hg : Grown h) {a b : CommitId} :
    b ∈ h.ancestors a ↔ Leads h a b := by
  constructor
  · intro hb
    obtain ⟨a', ha', hl⟩ := closure_sound hb
    rw [List.mem_singleton] at ha'
    exact ha' ▸ hl
  · intro hl
    have hwalk : b ∈ (walk h [a]).1 := by
      induction hl with
      | refl => exact subset_walk h [a] (by simp)
      | tail _ hp ih => exact hg.walk_closed ih hp
    exact walk_subset_closure h [a] hwalk

lemma mem_log_iff {h : History} (hg : Grown h) {id : CommitId} {c : Commit} :
    c ∈ h.log id ↔ c ∈ h ∧ Leads h id c.id := by
  simp only [log, List.mem_filter, decide_eq_true_eq, mem_ancestors_iff hg]

/-! ### Common ancestors -/

lemma mem_of_newest? {h : History} {c : Commit} (hn : newest? h = some c) : c ∈ h := by
  cases h with
  | nil => simp [newest?] at hn
  | cons d older =>
    rw [newest?, Option.some.injEq] at hn
    subst hn
    exact ((List.takeWhile_sublist _).cons_cons d).subset List.getLastD_mem_cons

lemma leads_of_mergeBase {h : History} {a b m : CommitId} (hm : h.mergeBase a b = some m) :
    Leads h a m ∧ Leads h b m := by
  rw [mergeBase, Option.map_eq_some_iff] at hm
  obtain ⟨c, hc, rfl⟩ := hm
  have hin := mem_of_newest? hc
  simp only [List.mem_filter, decide_eq_true_eq] at hin
  obtain ⟨a', ha', hla⟩ := closure_sound hin.2.1
  obtain ⟨b', hb', hlb⟩ := closure_sound hin.2.2
  rw [List.mem_singleton] at ha' hb'
  exact ⟨ha' ▸ hla, hb' ▸ hlb⟩

lemma Grown.exists_mergeBase {h : History} (hg : Grown h) {a b : CommitId} (ha : a ∈ h.ids)
    (hb : b ∈ h.ids) : ∃ m, h.mergeBase a b = some m := by
  have hne : h ≠ [] := by
    rintro rfl
    simp [ids] at ha
  obtain ⟨root, hroot⟩ := hg.exists_root hne
  obtain ⟨c, hc, hcr⟩ := mem_ids_iff.1 (hg.mem_of_leads ha (hroot a ha))
  have hin : c ∈ h.filter fun c => c.id ∈ h.ancestors a ∧ c.id ∈ h.ancestors b := by
    rw [List.mem_filter, decide_eq_true_eq]
    exact ⟨hc, (mem_ancestors_iff hg).2 (hcr ▸ hroot a ha),
      (mem_ancestors_iff hg).2 (hcr ▸ hroot b hb)⟩
  rw [mergeBase]
  generalize h.filter _ = common at hin
  cases common with
  | nil => exact absurd hin List.not_mem_nil
  | cons d rest => exact ⟨_, rfl⟩

end GitTutor.History
