import GitTutor.Lesson.Verdict
import GitTutor.Proofs.Text.Pattern
import GitTutor.Proofs.Text.Search

/-!
The first heading of a page.

The mission on headings looks for the first opening tag, for its end, and for the first closing tag
behind that. This finds a complete heading whenever there is one: a later opening tag has less
behind it, so that it cannot be completed if the first one cannot. What is found is the heading that
begins first, with as little inside as possible.
-/

namespace GitTutor

open Text

/-! ### Headings -/

/-- An opening tag: `<h1` in either case, and all up to the end of the tag. -/
def IsOpening (s : List Char) : Prop :=
  ∃ tag attributes, s = tag ++ attributes ++ ['>'] ∧ tag.map Char.toLower = "<h1".toList ∧
    '>' ∉ attributes

/-- A complete heading in a page. -/
structure Heading (page : List Char) where
  before : List Char
  opening : List Char
  body : List Char
  closing : List Char
  after : List Char
  whole : page = before ++ opening ++ body ++ closing ++ after
  opens : IsOpening opening
  closes : closing.map Char.toLower = "</h1>".toList

namespace Heading

variable {page : List Char}

/-- Nothing begins before the heading, and none that begins with it is shorter inside. -/
structure IsFirst (h : Heading page) : Prop where
  before_le : ∀ other : Heading page, h.before.length ≤ other.before.length
  body_le : ∀ other : Heading page, other.before = h.before → h.body.length ≤ other.body.length

lemma opening_unique {s t s' t' : List Char} (hs : IsOpening s) (hs' : IsOpening s')
    (same : s ++ t = s' ++ t') : s = s' ∧ t = t' := by
  obtain ⟨tag, attributes, rfl, htag, hattributes⟩ := hs
  obtain ⟨tag', attributes', rfl, htag', hattributes'⟩ := hs'
  have lengths : tag.length = tag'.length := by
    rw [← List.length_map Char.toLower, htag, ← htag', List.length_map]
  simp only [List.append_assoc] at same
  obtain ⟨rfl, rest⟩ := List.append_inj same lengths
  obtain ⟨rfl, rfl⟩ := cut_unique hattributes hattributes' rest
  exact ⟨rfl, rfl⟩

lemma IsFirst.body_eq {h h' : Heading page} (first : h.IsFirst) (first' : h'.IsFirst) :
    h.body = h'.body := by
  have same : h.before ++ (h.opening ++ (h.body ++ (h.closing ++ h.after))) =
      h'.before ++ (h'.opening ++ (h'.body ++ (h'.closing ++ h'.after))) := by
    simpa only [List.append_assoc] using h.whole.symm.trans h'.whole
  obtain ⟨before, rest⟩ := List.append_inj same
    (Nat.le_antisymm (first.before_le h') (first'.before_le h))
  obtain ⟨-, rest⟩ := opening_unique h.opens h'.opens rest
  exact (List.append_inj rest
    (Nat.le_antisymm (first.body_le h' before.symm) (first'.body_le h before))).1

/-! ### The search for a heading -/

variable {before tag rest attributes mark inside : List Char}

lemma occurs_tag (h : Heading page) : ∃ tag gap, Occurs Char.toLower "<h1".toList page h.before tag
    (gap ++ ['>'] ++ (h.body ++ h.closing ++ h.after)) := by
  obtain ⟨tag, attributes, opening, htag, -⟩ := h.opens
  refine ⟨tag, attributes, h.whole.trans ?_, htag⟩
  rw [opening]
  simp only [List.append_assoc]

lemma exists_mark (h : Heading page)
    (first : OccursFirst Char.toLower "<h1".toList page before tag rest) :
    ∃ gap, Occurs id ['>'] rest gap ['>'] (h.body ++ h.closing ++ h.after) := by
  obtain ⟨tag', gap, here⟩ := h.occurs_tag
  obtain ⟨gap', hgap'⟩ := first.suffix here
  exact ⟨gap' ++ gap, by rw [← hgap']; simp only [List.append_assoc], rfl⟩

lemma exists_closing (h : Heading page)
    (first : OccursFirst Char.toLower "<h1".toList page before tag rest)
    (ends : OccursFirst id ['>'] rest attributes mark inside) :
    ∃ gap, Occurs Char.toLower "</h1>".toList inside gap h.closing h.after := by
  obtain ⟨gap, here⟩ := h.exists_mark first
  obtain ⟨gap', hgap'⟩ := ends.suffix here
  exact ⟨gap' ++ h.body, by rw [← hgap']; simp only [List.append_assoc], h.closes⟩

/-- The first opening tag, its end, and the first closing tag behind that make up the first
heading. -/
lemma exists_first (first : OccursFirst Char.toLower "<h1".toList page before tag rest)
    (ends : OccursFirst id ['>'] rest attributes mark inside) {body closing after : List Char}
    (closes : OccursFirst Char.toLower "</h1>".toList inside body closing after) :
    ∃ h : Heading page, h.IsFirst ∧ h.body = body := by
  obtain rfl : mark = ['>'] := by simpa using ends.same
  -- A mark among the attributes would have been found first.
  have unmarked : '>' ∉ attributes := by
    intro marked
    obtain ⟨x, y, rfl⟩ := List.append_of_mem marked
    have earlier : Occurs id ['>'] rest x ['>'] (y ++ ['>'] ++ inside) :=
      ⟨by rw [ends.whole]; simp, rfl⟩
    have shorter := ends.first earlier
    rw [List.length_append, List.length_cons] at shorter
    omega
  have opens : IsOpening (tag ++ attributes ++ ['>']) :=
    ⟨tag, attributes, rfl, first.same, unmarked⟩
  have whole : page = before ++ (tag ++ attributes ++ ['>']) ++ body ++ closing ++ after := by
    rw [first.whole, ends.whole, closes.whole]
    simp only [List.append_assoc]
  refine ⟨⟨before, _, body, closing, after, whole, opens, closes.same⟩, ⟨?_, ?_⟩, rfl⟩
  · intro other
    obtain ⟨tag', gap, here⟩ := other.occurs_tag
    exact first.first here
  · intro other (same : other.before = before)
    have both : before ++ (other.opening ++ (other.body ++ other.closing ++ other.after)) =
        before ++ (tag ++ attributes ++ ['>'] ++ inside) := by
      have wholes := other.whole.symm.trans first.whole
      rw [ends.whole, same] at wholes
      simpa only [List.append_assoc] using wholes
    obtain ⟨-, behind⟩ := opening_unique other.opens opens (List.append_cancel_left both)
    exact closes.first ⟨behind.symm, other.closes⟩

/-- **The text of a heading is that of the first complete one**, and it is missing only where no
heading is complete. -/
lemma headingText?_spec (page : List Char) :
    match headingText? page with
    | some text => ∃ h : Heading page, h.IsFirst ∧ h.body = text
    | none => IsEmpty (Heading page) := by
  rw [headingText?, cutAnyCase_eq_cutBy]
  -- Every heading has all three marks in order, so a search that fails rules them all out.
  cases hopen : cutBy Char.toLower "<h1".toList page with
  | none =>
    refine ⟨fun h => ?_⟩
    obtain ⟨tag, gap, here⟩ := h.occurs_tag
    exact not_occurs_of_cutBy hopen _ _ _ here
  | some p =>
    obtain ⟨before, rest⟩ := p
    obtain ⟨tag, first⟩ := occursFirst_of_cutBy hopen
    simp only [Option.bind_eq_bind, Option.bind_some, cut_eq_cutBy]
    cases hmark : cutBy id ['>'] rest with
    | none =>
      refine ⟨fun h => ?_⟩
      obtain ⟨gap, here⟩ := h.exists_mark first
      exact not_occurs_of_cutBy hmark _ _ _ here
    | some p =>
      obtain ⟨attributes, inside⟩ := p
      obtain ⟨mark, ends⟩ := occursFirst_of_cutBy hmark
      simp only [Option.bind_some, cutAnyCase_eq_cutBy]
      cases hclose : cutBy Char.toLower "</h1>".toList inside with
      | none =>
        refine ⟨fun h => ?_⟩
        obtain ⟨gap, here⟩ := h.exists_closing first ends
        exact not_occurs_of_cutBy hclose _ _ _ here
      | some p =>
        obtain ⟨body, after⟩ := p
        obtain ⟨closing, closes⟩ := occursFirst_of_cutBy hclose
        exact exists_first first ends closes

lemma headingText?_eq_some_iff {text : List Char} :
    headingText? page = some text ↔ ∃ h : Heading page, h.IsFirst ∧ h.body = text := by
  have spec := headingText?_spec page
  constructor
  · intro found
    rwa [found] at spec
  · rintro ⟨h, first, rfl⟩
    cases found : headingText? page with
    | none =>
      rw [found] at spec
      exact spec.elim h
    | some text =>
      rw [found] at spec
      obtain ⟨h', first', rfl⟩ := spec
      rw [first.body_eq first']

lemma headingText?_eq_none_iff : headingText? page = none ↔ IsEmpty (Heading page) := by
  have spec := headingText?_spec page
  constructor
  · intro missing
    rwa [missing] at spec
  · intro nowhere
    cases found : headingText? page with
    | none => rfl
    | some text =>
      rw [found] at spec
      exact nowhere.elim spec.choose

/-! ### The search as a pattern -/

/-- A heading in a page is one in a longer page. -/
def cons (h : Heading page) (c : Char) : Heading (c :: page) :=
  { h with before := c :: h.before, whole := congrArg (c :: ·) h.whole }

/-- The pattern `<h1[^>]*>(.*?)</h1>`, where case does not count and the dot is any character. -/
def pattern : Pattern where
  opening := letters "<h1".toList ++ [.most (· ≠ '>'), .one (· = '>')]
  group := [.least fun _ => true]
  closing := letters "</h1>".toList

/-- The text up to the first closing tag behind the end of the tag that has begun. -/
def bodyFrom (s : List Char) : Option (List Char) :=
  (cut ['>'] s).bind fun p => (cutAnyCase "</h1>".toList p.2).map (·.1)

lemma head?_groups (s : List Char) :
    (pattern.groups s).head? =
      if (s.take 3).map Char.toLower = "<h1".toList then bodyFrom (s.drop 3) else none := by
  have opening : ways (letters "<h1".toList) s =
      if (s.take 3).map Char.toLower = "<h1".toList then [(s.take 3, s.drop 3)] else [] :=
    ways_letters _ s
  rw [Pattern.groups, pattern, ways_append, opening]
  split_ifs with starts
  · rw [List.flatMap_singleton, ways_most_one, bodyFrom]
    cases cut ['>'] (s.drop 3) with
    | none => rfl
    | some p =>
      simp only [Option.map_some, Option.toList_some, List.map_singleton, List.flatMap_singleton,
        head?_least_letters, Option.bind_some]
  · rfl

lemma headingText?_cons (c : Char) (r : List Char) :
    headingText? (c :: r) =
      if ((c :: r).take 3).map Char.toLower = "<h1".toList then bodyFrom ((c :: r).drop 3)
      else headingText? r := by
  have opening : cutAnyCase "<h1".toList (c :: r) =
      if ((c :: r).take 3).map Char.toLower = "<h1".toList then some ([], (c :: r).drop 3)
      else (cutAnyCase "<h1".toList r).map fun p => (c :: p.1, p.2) := rfl
  rw [headingText?, opening]
  split_ifs with starts
  · rw [bodyFrom]
    simp only [Option.bind_eq_bind, Option.bind_some]
    congr
    funext p
    cases cutAnyCase "</h1>".toList p.2 <;> rfl
  · rw [headingText?]
    cases cutAnyCase "<h1".toList r <;> rfl

/-- **The search finds what the pattern matches first.** -/
lemma headingText?_eq_captured (page : List Char) : headingText? page = pattern.captured? page := by
  induction page with
  | nil => rfl
  | cons c r ih =>
    rw [Pattern.captured?, head?_groups, ← ih]
    have here := headingText?_cons c r
    split_ifs at here ⊢ with starts
    · cases found : headingText? (c :: r) with
      | some text => rw [← here, found, Option.some_or]
      | none =>
        -- What begins later would be within reach from here.
        have nowhere : IsEmpty (Heading (c :: r)) := headingText?_eq_none_iff.1 found
        have later : headingText? r = none :=
          headingText?_eq_none_iff.2 ⟨fun h => nowhere.elim (h.cons c)⟩
        rw [← here, found, later, Option.none_or]
    · rw [here, Option.none_or]

end Heading

/-! ### The mission -/

namespace Check

variable {w : Workspace} {h : Host}

/-- What is said of a page without a complete heading. -/
def noHeading (file : String) : String :=
  s!"No <h1> heading found in {file}. Add an <h1> with a main title."

lemma toList_append_eq {a b c a' b' c' : String} (same : a ++ b ++ c = a' ++ b' ++ c') :
    a.toList ++ (b.toList ++ c.toList) = a'.toList ++ (b'.toList ++ c'.toList) := by
  simpa only [String.toList_append, List.append_assoc] using congrArg String.toList same

lemma lacking_headingMentions {found : Option Record} (stored : h.record? = .ok found)
    (file word : String) :
    (headingMentions file word).lacking w h = headingMentionsLacks w file word := by
  rw [lacking, stored]

lemma headingMentionsLacks_eq_nil_iff (w : Workspace) (file word : String) :
    headingMentionsLacks w file word = [] ↔
      ∃ content, w.read file = some content ∧
        ∃ heading : Heading (trim content.toList), heading.IsFirst ∧
          lower word.toList <:+: lower heading.body := by
  rw [headingMentionsLacks]
  cases present : w.read file with
  | none => simp
  | some content =>
    simp only [Option.some.injEq, exists_eq_left']
    rw [List.append_eq_nil_iff, lacks_eq_nil_iff]
    cases found : headingText? (trim content.toList) with
    | none =>
      have nowhere := Heading.headingText?_eq_none_iff.1 found
      exact iff_of_false (fun done => by cases done.2) fun ⟨heading, _⟩ => nowhere.elim heading
    | some text =>
      have nonempty : (trim content.toList).isEmpty = false := by
        cases hpage : trim content.toList with
        | nil =>
          rw [hpage] at found
          cases found
        | cons c page => rfl
      obtain ⟨heading, first, rfl⟩ := Heading.headingText?_eq_some_iff.1 found
      simp only [nonempty, true_and, lacks_eq_nil_iff, Bool.not_eq_false', mentions, contains_iff]
      refine ⟨fun inside => ⟨heading, first, inside⟩, fun ⟨other, first', inside⟩ => ?_⟩
      rwa [first.body_eq first']

lemma noHeading_mem_iff {file content : String} (present : w.read file = some content)
    (word : String) :
    noHeading file ∈ headingMentionsLacks w file word ↔
      IsEmpty (Heading (trim content.toList)) := by
  rw [headingMentionsLacks, present, ← Heading.headingText?_eq_none_iff]
  simp only
  rw [List.mem_append, mem_lacks_iff]
  cases headingText? (trim content.toList) with
  | none => exact iff_of_true (.inr (List.mem_singleton.2 rfl)) rfl
  | some text =>
    -- None of the other complaints begins with the same letter.
    rw [mem_lacks_iff]
    refine iff_of_false ?_ (Option.some_ne_none text)
    rintro (⟨-, same⟩ | ⟨-, same⟩)
    · exact absurd (List.cons.inj (toList_append_eq same)).1 (by decide)
    · exact absurd (List.cons.inj (toList_append_eq same)).1 (by decide)

/-- **The mission on headings looks at the first complete one.** Where the host has no trouble, the
mission is done exactly if the file is there and the first heading of its trimmed text mentions the
word. That a heading is missing is said exactly if the text has no complete heading. Both go by
what the pattern of headings matches first. -/
theorem heading_first {found : Option Record} (stored : h.record? = .ok found) (w : Workspace)
    (file word : String) :
    ((headingMentions file word).lacking w h = [] ↔
      ∃ content, w.read file = some content ∧
        ∃ heading : Heading (trim content.toList), heading.IsFirst ∧
          lower word.toList <:+: lower heading.body) ∧
    (∀ content, w.read file = some content →
      (noHeading file ∈ (headingMentions file word).lacking w h ↔
        IsEmpty (Heading (trim content.toList)))) ∧
    ∀ page, headingText? page = Heading.pattern.captured? page := by
  rw [lacking_headingMentions stored]
  exact ⟨headingMentionsLacks_eq_nil_iff w file word,
    fun content present => noHeading_mem_iff present word, Heading.headingText?_eq_captured⟩

/-- A page with two headings, and one whose only heading is not closed. -/
def pages : Workspace :=
  ⟨.ofList [("about.html", "<h1>About"),
    ("index.html", " <h2>No</h2>\n<H1 class=a>My\nPage</h1><h1>More</h1>\n")], none⟩

theorem heading_first_pages :
    (Host.new .inMemory).record? = .ok none ∧
    (∃ heading : Heading "<h2>No</h2>\n<H1 class=a>My\nPage</h1><h1>More</h1>".toList,
      heading.IsFirst ∧ lower "page".toList <:+: lower heading.body) ∧
    (headingMentions "index.html" "more").lacking pages (.new .inMemory) ≠ [] ∧
    IsEmpty (Heading "<h1>About".toList) := by
  have stored : (Host.new .inMemory).record? = .ok none := rfl
  refine ⟨stored, ?_, by decide +kernel, ?_⟩
  · obtain ⟨content, present, done⟩ :=
      (heading_first stored pages "index.html" "page").1.1 (by decide +kernel)
    cases present
    have page : trim " <h2>No</h2>\n<H1 class=a>My\nPage</h1><h1>More</h1>\n".toList =
        "<h2>No</h2>\n<H1 class=a>My\nPage</h1><h1>More</h1>".toList := by decide +kernel
    rwa [page] at done
  · exact ((heading_first stored pages "about.html" "page").2.1 "<h1>About" rfl).1
      (by decide +kernel)

end Check

end GitTutor
