import GitTutor.Table
import Mathlib.Tactic.Common

/-!
Which names a table has.

`t.Within u` says that `u` has all names of `t`, whatever their values. The order of the paths of
a commit, of the index and of the files is always stated this way.
-/

namespace GitTutor.Table

variable {α β γ : Type}

lemma contains_iff {t : Table α} {name : String} :
    t.contains name = true ↔ ∃ value, t.get? name = some value := by
  rw [contains, Option.isSome_iff_exists]

lemma contains_eq_false_iff {t : Table α} {name : String} :
    t.contains name = false ↔ t.get? name = none := by
  simp [contains]

lemma contains_of_get? {t : Table α} {name : String} {value : α} (h : t.get? name = some value) :
    t.contains name = true :=
  contains_iff.2 ⟨value, h⟩

@[simp] lemma contains_empty (name : String) : (∅ : Table α).contains name = false := rfl

@[simp] lemma contains_insert (t : Table α) (name other : String) (value : α) :
    (t.insert name value).contains other = (decide (name = other) || t.contains other) := by
  by_cases h : name = other <;> simp [contains, h]

@[simp] lemma contains_erase (t : Table α) (name other : String) :
    (t.erase name).contains other = (!decide (other = name) && t.contains other) := by
  by_cases h : other = name <;> simp [contains, h]

@[simp] lemma names_nameSet (t : Table α) : t.nameSet.names = t.names := by
  simp [names, nameSet, pick]

lemma names_pick (f : String → α → Option β) (t : Table α) :
    (t.pick f).names = (t.entries.filter fun e => (f e.1 e.2).isSome).map (·.1) := by
  obtain ⟨es, hes⟩ := t
  simp only [names, pick]
  clear hes
  induction es with
  | nil => rfl
  | cons e es ih => cases h : f e.1 e.2 <;> simp [h, ih]

lemma names_erase (t : Table α) (name : String) :
    (t.erase name).names = t.names.filter (· ≠ name) := by
  rw [erase, names_pick, names, List.filter_map]
  congr 2
  funext e
  by_cases h : e.1 = name <;> simp [h]

lemma names_eq_nil_iff {t : Table α} : t.names = [] ↔ t = ∅ := by
  rw [← isEmpty_iff, isEmpty, List.isEmpty_iff, names, List.map_eq_nil_iff]

lemma eq_empty_of_get? {t : Table α} (h : ∀ name, t.get? name = none) : t = ∅ :=
  Table.ext fun name => (h name).trans (get?_empty name).symm

/-! ### Inclusion of names -/

/-- Every name of `t` is one of `u`. -/
def Within (t : Table α) (u : Table β) : Prop :=
  ∀ name, t.contains name = true → u.contains name = true

namespace Within

lemma refl (t : Table α) : t.Within t := fun _ h => h

lemma trans {t : Table α} {u : Table β} {v : Table γ} (h : t.Within u) (h' : u.Within v) :
    t.Within v :=
  fun name ht => h' name (h name ht)

lemma empty (u : Table β) : (∅ : Table α).Within u := by
  intro name h
  simp at h

lemma insert {t : Table α} {u : Table β} (h : t.Within u) (name : String) (value : β) :
    t.Within (u.insert name value) := by
  intro other ht
  simp [h other ht]

lemma insert_left {t : Table α} {u : Table β} {name : String} (h : t.Within u)
    (hn : u.contains name = true) (value : α) : (t.insert name value).Within u := by
  intro other ht
  rw [contains_insert, Bool.or_eq_true, decide_eq_true_eq] at ht
  rcases ht with rfl | ht
  · exact hn
  · exact h other ht

lemma erase_left {t : Table α} {u : Table β} (h : t.Within u) (name : String) :
    (t.erase name).Within u := by
  intro other ht
  rw [contains_erase, Bool.and_eq_true] at ht
  exact h other ht.2

lemma get? {t : Table α} {u : Table β} (h : t.Within u) {name : String} {value : α}
    (ht : t.get? name = some value) : ∃ value', u.get? name = some value' :=
  contains_iff.1 (h name (contains_of_get? ht))

lemma get?_eq_none {t : Table α} {u : Table β} (h : t.Within u) {name : String}
    (hu : u.get? name = none) : t.get? name = none := by
  rw [← contains_eq_false_iff, ← Bool.not_eq_true] at hu ⊢
  exact fun ht => hu (h name ht)

lemma of_none {t : Table α} {u : Table β} (h : ∀ name, u.get? name = none → t.get? name = none) :
    t.Within u := by
  intro name ht
  by_contra hu
  rw [Bool.not_eq_true, contains_eq_false_iff] at hu
  rw [contains, h name hu] at ht
  cases ht

end Within

end GitTutor.Table
