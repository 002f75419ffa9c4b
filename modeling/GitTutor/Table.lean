/-!
Finite maps from names to values, kept as lists in strictly ascending order of the names.

Names are compared by code point, which is the order of their UTF-8 bytes. Each operation is
described by what it does to look-ups, and a table is determined by its look-ups (`Table.ext`).
-/

namespace GitTutor

/-! ### Lists of entries -/

namespace Entries

variable {α β : Type}

def Sorted (es : List (String × α)) : Prop := es.Pairwise fun a b => a.1 < b.1

instance (es : List (String × α)) : Decidable (Sorted es) :=
  inferInstanceAs (Decidable (es.Pairwise _))

def find (name : String) : List (String × α) → Option α
  | [] => none
  | e :: es => if e.1 = name then some e.2 else find name es

def insert (name : String) (value : α) : List (String × α) → List (String × α)
  | [] => [(name, value)]
  | e :: es =>
    if name < e.1 then (name, value) :: e :: es
    else if e.1 = name then (name, value) :: es
    else e :: insert name value es

theorem find_eq_none_iff {name : String} {es : List (String × α)} :
    find name es = none ↔ ∀ e ∈ es, e.1 ≠ name := by
  induction es with
  | nil => simp [find]
  | cons e es ih => by_cases h : e.1 = name <;> simp [find, h, ih]

theorem find_insert (name other : String) (value : α) (es : List (String × α)) :
    find other (insert name value es) = if name = other then some value else find other es := by
  induction es with
  | nil => simp [insert, find]
  | cons e es ih =>
    by_cases hlt : name < e.1
    · simp [insert, hlt, find]
    · by_cases he : e.1 = name
      · by_cases ho : name = other <;> simp_all [insert, find]
      · by_cases ho : e.1 = other
        · subst ho
          simp [insert, hlt, he, find, Ne.symm he]
        · simp [insert, hlt, he, find, ho, ih]

theorem mem_insert {name : String} {value : α} {es : List (String × α)} {e : String × α}
    (h : e ∈ insert name value es) : e = (name, value) ∨ e ∈ es := by
  induction es with
  | nil => simpa [insert] using h
  | cons d es ih =>
    simp only [insert] at h
    split at h
    · simpa using h
    · split at h
      · rcases List.mem_cons.1 h with h | h <;> simp [h]
      · rcases List.mem_cons.1 h with h | h
        · simp [h]
        · rcases ih h with h | h <;> simp [h]

theorem lt_of_not_lt {a b : String} (h : ¬a < b) (hne : b ≠ a) : b < a := by
  rcases Std.lt_trichotomy a b with h' | h' | h'
  · exact absurd h' h
  · exact absurd h'.symm hne
  · exact h'

theorem Sorted.insert {name : String} {value : α} {es : List (String × α)} (h : Sorted es) :
    Sorted (Entries.insert name value es) := by
  induction es with
  | nil => simp [Sorted, Entries.insert]
  | cons e es ih =>
    obtain ⟨he, hes⟩ := List.pairwise_cons.1 h
    simp only [Entries.insert]
    split
    · rename_i hlt
      refine List.pairwise_cons.2 ⟨fun d hd => ?_, h⟩
      rcases List.mem_cons.1 hd with rfl | hd
      · exact hlt
      · exact String.lt_trans hlt (he d hd)
    · split
      · rename_i heq
        exact List.pairwise_cons.2 ⟨fun d hd => heq ▸ he d hd, hes⟩
      · rename_i hlt hne
        refine List.pairwise_cons.2 ⟨fun d hd => ?_, ih hes⟩
        rcases mem_insert hd with rfl | hd
        · exact lt_of_not_lt hlt hne
        · exact he d hd

theorem find_of_mem {es : List (String × α)} (h : Sorted es) {e : String × α} (he : e ∈ es) :
    find e.1 es = some e.2 := by
  induction es with
  | nil => simp at he
  | cons d es ih =>
    obtain ⟨hd, hes⟩ := List.pairwise_cons.1 h
    rcases List.mem_cons.1 he with rfl | he
    · simp [find]
    · have hne : d.1 ≠ e.1 := fun h' => String.lt_irrefl _ (h' ▸ hd e he)
      simp [find, hne, ih hes he]

theorem mem_of_find {name : String} {value : α} {es : List (String × α)}
    (h : find name es = some value) : (name, value) ∈ es := by
  induction es with
  | nil => simp [find] at h
  | cons e es ih =>
    by_cases he : e.1 = name
    · simp only [find, he, if_true, Option.some.injEq] at h
      simp [← he, ← h]
    · simp only [find, he, if_false] at h
      exact List.mem_cons_of_mem _ (ih h)

theorem find_filterMap (f : String → α → Option β) {es : List (String × α)} (h : Sorted es)
    (name : String) :
    find name (es.filterMap fun e => (f e.1 e.2).map (e.1, ·)) = (find name es).bind (f name) := by
  induction es with
  | nil => rfl
  | cons e es ih =>
    obtain ⟨he, hes⟩ := List.pairwise_cons.1 h
    by_cases hn : e.1 = name
    · subst hn
      have hnone : find e.1 es = none :=
        find_eq_none_iff.2 fun d hd h' => String.lt_irrefl _ (h' ▸ he d hd)
      cases hf : f e.1 e.2 with
      | none => simp [find, hf, ih hes, hnone]
      | some b => simp [find, hf]
    · cases hf : f e.1 e.2 with
      | none => simp [find, hf, ih hes, hn]
      | some b => simp [find, hf, ih hes, hn]

theorem Sorted.filterMap (f : String → α → Option β) {es : List (String × α)} (h : Sorted es) :
    Sorted (es.filterMap fun e => (f e.1 e.2).map (e.1, ·)) := by
  refine List.Pairwise.filterMap _ (fun a a' haa' b hb b' hb' => ?_) h
  obtain ⟨x, _, rfl⟩ := Option.map_eq_some_iff.1 hb
  obtain ⟨y, _, rfl⟩ := Option.map_eq_some_iff.1 hb'
  exact haa'

theorem Sorted.eq_of_find {es fs : List (String × α)} (hes : Sorted es) (hfs : Sorted fs)
    (h : ∀ name, find name es = find name fs) : es = fs := by
  induction es generalizing fs with
  | nil =>
    cases fs with
    | nil => rfl
    | cons f fs => simpa [find] using h f.1
  | cons e es ih =>
    cases fs with
    | nil => simpa [find] using h e.1
    | cons f fs =>
      obtain ⟨he, hes'⟩ := List.pairwise_cons.1 hes
      obtain ⟨hf, hfs'⟩ := List.pairwise_cons.1 hfs
      have hkey : e.1 = f.1 := by
        rcases Std.lt_trichotomy e.1 f.1 with hlt | heq | hlt
        · have hmem : e ∈ f :: fs := mem_of_find ((h e.1).symm.trans (by simp [find]))
          rcases List.mem_cons.1 hmem with rfl | hmem
          · rfl
          · exact absurd (hf e hmem) (String.lt_asymm hlt)
        · exact heq
        · have hmem : f ∈ e :: es := mem_of_find ((h f.1).trans (by simp [find]))
          rcases List.mem_cons.1 hmem with rfl | hmem
          · rfl
          · exact absurd (he f hmem) (String.lt_asymm hlt)
      have hval : e.2 = f.2 := by simpa [find, hkey] using h e.1
      have hef : e = f := Prod.ext hkey hval
      subst hef
      congr 1
      refine ih hes' hfs' fun name => ?_
      by_cases hn : e.1 = name
      · have hnone : ∀ {ds : List (String × α)}, (∀ d ∈ ds, e.1 < d.1) → find name ds = none :=
          fun hds => find_eq_none_iff.2 fun d hd h' => String.lt_irrefl _ (hn ▸ h' ▸ hds d hd)
        rw [hnone he, hnone hf]
      · simpa [find, hn] using h name

end Entries

/-! ### Tables -/

structure Table (α : Type) where
  entries : List (String × α)
  sorted : Entries.Sorted entries
  deriving DecidableEq

/-- Sets of names. -/
abbrev NameSet := Table Unit

namespace Table

variable {α β γ : Type}

def empty : Table α := ⟨[], List.Pairwise.nil⟩

instance : EmptyCollection (Table α) := ⟨empty⟩
instance : Inhabited (Table α) := ⟨empty⟩

def get? (t : Table α) (name : String) : Option α := Entries.find name t.entries

def contains (t : Table α) (name : String) : Bool := (t.get? name).isSome

def isEmpty (t : Table α) : Bool := t.entries.isEmpty

/-- The names in ascending order. -/
def names (t : Table α) : List String := t.entries.map (·.1)

def insert (t : Table α) (name : String) (value : α) : Table α :=
  ⟨Entries.insert name value t.entries, t.sorted.insert⟩

/-- Gives each name the value that `f` chooses for it, and drops those it refuses. -/
def pick (f : String → α → Option β) (t : Table α) : Table β :=
  ⟨t.entries.filterMap fun e => (f e.1 e.2).map (e.1, ·), t.sorted.filterMap f⟩

def erase (t : Table α) (name : String) : Table α :=
  t.pick fun n v => if n = name then none else some v

/-- The entries of `t` whose names are not in `u`. -/
def without (t : Table α) (u : Table β) : Table α :=
  t.pick fun n v => if u.contains n then none else some v

/-- The entries of both tables. Where both have a name, the value of `u` stands. -/
def overlay (t u : Table α) : Table α := u.entries.foldl (fun t e => t.insert e.1 e.2) t

def nameSet (t : Table α) : NameSet := t.pick fun _ _ => some ()

/-- Later entries replace earlier ones of the same name. -/
def ofList (es : List (String × α)) : Table α := es.foldl (fun t e => t.insert e.1 e.2) empty

@[ext]
theorem ext {t u : Table α} (h : ∀ name, t.get? name = u.get? name) : t = u := by
  obtain ⟨es, hes⟩ := t
  obtain ⟨fs, hfs⟩ := u
  have : es = fs := hes.eq_of_find hfs h
  subst this
  rfl

@[simp] theorem get?_empty (name : String) : (∅ : Table α).get? name = none := rfl

@[simp] theorem get?_insert (t : Table α) (name other : String) (value : α) :
    (t.insert name value).get? other = if name = other then some value else t.get? other :=
  Entries.find_insert name other value t.entries

@[simp] theorem get?_pick (f : String → α → Option β) (t : Table α) (name : String) :
    (t.pick f).get? name = (t.get? name).bind (f name) :=
  Entries.find_filterMap f t.sorted name

@[simp] theorem get?_erase (t : Table α) (name other : String) :
    (t.erase name).get? other = if other = name then none else t.get? other := by
  by_cases h : other = name <;> cases ht : t.get? other <;> simp [erase, h, ht]

@[simp] theorem get?_without (t : Table α) (u : Table β) (name : String) :
    (t.without u).get? name = if u.contains name then none else t.get? name := by
  by_cases h : u.contains name = true <;> cases ht : t.get? name <;> simp [without, h, ht]

@[simp] theorem get?_nameSet (t : Table α) (name : String) :
    t.nameSet.get? name = (t.get? name).map fun _ => () := by
  cases h : t.get? name <;> simp [nameSet, h]

theorem get?_foldl_insert (es : List (String × α)) (hes : Entries.Sorted es) (t : Table α)
    (name : String) :
    (es.foldl (fun t e => t.insert e.1 e.2) t).get? name =
      (Entries.find name es).or (t.get? name) := by
  induction es generalizing t with
  | nil => rfl
  | cons e es ih =>
    obtain ⟨he, hes⟩ := List.pairwise_cons.1 hes
    rw [List.foldl_cons, ih hes, get?_insert]
    by_cases h : e.1 = name
    · subst h
      have hnone : Entries.find e.1 es = none :=
        Entries.find_eq_none_iff.2 fun d hd h' => String.lt_irrefl _ (h' ▸ he d hd)
      simp [Entries.find, hnone]
    · simp [Entries.find, h]

@[simp] theorem get?_overlay (t u : Table α) (name : String) :
    (t.overlay u).get? name = (u.get? name).or (t.get? name) :=
  get?_foldl_insert u.entries u.sorted t name

theorem mem_names_iff {t : Table α} {name : String} :
    name ∈ t.names ↔ t.contains name = true := by
  rw [contains, ← Option.not_isNone, Bool.not_eq_true', ← Bool.not_eq_true,
    Option.isNone_iff_eq_none, get?, Entries.find_eq_none_iff]
  simp [names]

theorem pairwise_names (t : Table α) : t.names.Pairwise (· < ·) :=
  List.pairwise_map.2 t.sorted

theorem isEmpty_iff {t : Table α} : t.isEmpty = true ↔ t = ∅ := by
  constructor
  · intro h
    obtain ⟨es, hes⟩ := t
    have : es = [] := List.isEmpty_iff.1 h
    subst this
    rfl
  · rintro rfl
    rfl

end Table

namespace NameSet

def ofList (names : List String) : NameSet := Table.ofList (names.map (·, ()))

/-- The names in either set. -/
def union (s t : NameSet) : NameSet := Table.overlay s t

end NameSet

end GitTutor
