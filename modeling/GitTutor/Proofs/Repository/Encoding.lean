import GitTutor.Proofs.Text.Search
import GitTutor.Repository.Commit
import GitTutor.Text.Hex
import Mathlib

/-!
What a commit is hashed over tells all that it records.

The text that is hashed has no lengths, only separators. It can still be read in one way alone, if
no part has a character that ends it (`Snapshot.Plain`). Each path and each content ends in a NUL,
and behind the files there is none. A parent's line ends in a newline and begins with another letter
than the line behind the parents. That line has the name up to its first `<` and the email up to its
last `>`; the time ends with the line, the number with the next one, and the rest is the message.
-/

namespace GitTutor

open Text

/-! ### Codes that tell where they end -/

/-- Whatever follows the code of a valid value, value and code are known from the text. -/
def Delimited {α : Type} (valid : α → Prop) (code : α → List Char) : Prop :=
  ∀ {a b : α} {x y : List Char}, valid a → valid b → code a ++ x = code b ++ y → a = b ∧ x = y

section

variable {α : Type} {valid : α → Prop} {code : α → List Char} {as bs : List α} {x y : List Char}

/-- No code of a valid value stands at the start of a text. -/
def Past (valid : α → Prop) (code : α → List Char) (x : List Char) : Prop :=
  ∀ a, valid a → ¬code a <+: x

/-- A list of such codes ends where no further one begins. -/
lemma Delimited.flatMap (h : Delimited valid code) (ha : ∀ a ∈ as, valid a)
    (hb : ∀ b ∈ bs, valid b) (hx : Past valid code x) (hy : Past valid code y)
    (same : as.flatMap code ++ x = bs.flatMap code ++ y) : as = bs ∧ x = y := by
  induction as generalizing bs with
  | nil =>
    cases bs with
    | nil => exact ⟨rfl, same⟩
    | cons b bs =>
      -- The other list would go on with a code where none begins.
      rw [List.flatMap_nil, List.nil_append, List.flatMap_cons, List.append_assoc] at same
      exact absurd ⟨_, same.symm⟩ (hx b (hb b List.mem_cons_self))
  | cons a as ih =>
    cases bs with
    | nil =>
      rw [List.flatMap_nil, List.nil_append, List.flatMap_cons, List.append_assoc] at same
      exact absurd ⟨_, same⟩ (hy a (ha a List.mem_cons_self))
    | cons b bs =>
      rw [List.flatMap_cons, List.flatMap_cons, List.append_assoc, List.append_assoc] at same
      obtain ⟨rfl, rest⟩ := h (ha a List.mem_cons_self) (hb b List.mem_cons_self) same
      obtain ⟨rfl, after⟩ := ih (fun d hd => ha d (List.mem_cons_of_mem _ hd))
        (fun d hd => hb d (List.mem_cons_of_mem _ hd)) rest
      exact ⟨rfl, after⟩

end

/-! ### Numbers and bytes -/

lemma isDigit_of_mem_toString {n : Int} {c : Char} (h : c ∈ (toString n).toList) :
    c = '-' ∨ c.isDigit = true := by
  have digit : ∀ {m : Nat}, c ∈ m.repr.toList → c.isDigit = true := by
    intro m hm
    rw [Nat.toList_repr] at hm
    exact Nat.isDigit_of_mem_toDigits (by decide) (by decide) hm
  cases n with
  | ofNat n => exact .inr (digit h)
  | negSucc n =>
    have written : (toString (Int.negSucc n)).toList = '-' :: (n + 1).repr.toList := by
      rw [Int.toString_eq_repr]
      simp [Int.repr]
    rw [written] at h
    rcases List.mem_cons.1 h with rfl | h
    · exact .inl rfl
    · exact .inr (digit h)

lemma not_mem_toString_int {n : Int} {c : Char} (minus : c ≠ '-') (digit : c.isDigit = false) :
    c ∉ (toString n).toList := by
  intro h
  rcases isDigit_of_mem_toString h with rfl | h
  · exact minus rfl
  · rw [digit] at h
    cases h

lemma not_mem_toString_nat {n : Nat} {c : Char} (minus : c ≠ '-') (digit : c.isDigit = false) :
    c ∉ (toString n).toList :=
  not_mem_toString_int (n := n) minus digit

lemma toList_loop_eq (bytes : ByteArray) (i : Nat) (read : List UInt8) :
    ByteArray.toList.loop bytes i read = read.reverse ++ bytes.data.toList.drop i := by
  fun_induction ByteArray.toList.loop bytes i read with
  | case1 i read more ih =>
    have hi : i < bytes.data.toList.length := by simpa using more
    have next : bytes.get! i = bytes.data.toList[i] := by
      rw [Array.getElem_toList]
      exact getElem!_pos bytes.data i more
    rw [ih, List.drop_eq_getElem_cons hi, next]
    simp
  | case2 i read done =>
    have hi : bytes.data.toList.length ≤ i := by simpa using done
    rw [List.drop_of_length_le hi, List.append_nil]

lemma toList_injective {a b : ByteArray} (same : a.toList = b.toList) : a = b := by
  unfold ByteArray.toList at same
  rw [toList_loop_eq, toList_loop_eq] at same
  exact ByteArray.ext (Array.toList_inj.1 same)

lemma Table.eq_of_entries {α : Type} {t u : Table α} (h : t.entries = u.entries) : t = u := by
  obtain ⟨entries, _⟩ := t
  obtain ⟨entries', _⟩ := u
  obtain rfl : entries = entries' := h
  rfl

/-- A text has none of the characters. -/
def Lacks (text : String) (cs : List Char) : Prop := ∀ c ∈ cs, c ∉ text.toList

instance (text : String) (cs : List Char) : Decidable (Lacks text cs) :=
  List.decidableBAll (fun c => c ∉ text.toList) cs

/-! ### The author -/

lemma Signature.text_unique {s t : Signature} {a b : List Char} (hs : '<' ∉ s.name.toList)
    (ht : '<' ∉ t.name.toList) (ha : '>' ∉ a) (hb : '>' ∉ b)
    (same : s.text.toList ++ a = t.text.toList ++ b) : s = t ∧ a = b := by
  have laid : ∀ (s : Signature) (a : List Char), s.text.toList ++ a =
      (s.name.toList ++ [' ']) ++ '<' :: (s.email.toList ++ '>' :: a) := by
    intro s a
    simp [Signature.text]
  rw [laid, laid] at same
  -- An email may hold both marks, so it is its last `>` that ends it.
  obtain ⟨names, rest⟩ := cut_unique (by simpa using hs) (by simpa using ht) same
  obtain ⟨emails, after⟩ := cut_unique_last ha hb rest
  obtain ⟨name, email⟩ := s
  obtain ⟨name', email'⟩ := t
  obtain rfl : name = name' := String.toList_injective (List.append_cancel_right names)
  obtain rfl : email = email' := String.toList_injective emails
  exact ⟨rfl, after⟩

namespace Snapshot

variable {s t : Snapshot} {x y : List Char}

/-! ### The parts of a commit -/

/-- Paths, contents, the author and the message have no character that would end them too early,
and the parents are commit ids. -/
structure Plain (s : Snapshot) : Prop where
  files : ∀ file ∈ s.tree.entries, Lacks file.1 ['\x00'] ∧ Lacks file.2 ['\x00']
  parents : ∀ parent ∈ s.parents, parent.hex.length = 40 ∧ parent.hex.toList.all isHexDigit = true
  name : Lacks s.author.name ['\x00', '<', '\n']
  email : Lacks s.author.email ['\x00', '\n']
  message : Lacks s.message ['\x00']

lemma delimited_encodeFile :
    Delimited (fun file => Lacks file.1 ['\x00'] ∧ Lacks file.2 ['\x00']) encodeFile := by
  rintro ⟨path, content⟩ ⟨path', content'⟩ x y ⟨hpath, hcontent⟩ ⟨hpath', hcontent'⟩ same
  simp only [encodeFile, List.append_assoc, List.cons_append, List.nil_append] at same
  obtain ⟨paths, rest⟩ := cut_unique (hpath _ (by simp)) (hpath' _ (by simp)) same
  obtain ⟨contents, after⟩ := cut_unique (hcontent _ (by simp)) (hcontent' _ (by simp)) rest
  obtain rfl : path = path' := String.toList_injective paths
  obtain rfl : content = content' := String.toList_injective contents
  exact ⟨rfl, after⟩

lemma Plain.not_mem_parent (hs : s.Plain) {parent : CommitId} (hp : parent ∈ s.parents) {c : Char}
    (hc : isHexDigit c = false) : c ∉ parent.hex.toList := by
  intro h
  have digit := List.all_eq_true.1 (hs.parents parent hp).2 c h
  rw [hc] at digit
  cases digit

lemma delimited_encodeParent :
    Delimited (fun parent => '\n' ∉ parent.hex.toList) encodeParent := by
  intro parent parent' x y hparent hparent' same
  unfold encodeParent at same
  simp only [List.append_assoc] at same
  obtain ⟨ids, after⟩ := cut_unique hparent hparent' (List.append_cancel_left same)
  obtain ⟨hex⟩ := parent
  obtain ⟨hex'⟩ := parent'
  obtain rfl : hex = hex' := String.toList_injective ids
  exact ⟨rfl, after⟩

/-- The line of the author, without its end. -/
def authorLine (s : Snapshot) : List Char :=
  "author ".toList ++ (s.author.text.toList ++ ' ' :: (toString s.seconds.toInt).toList)

lemma encodeOrigin_append (s : Snapshot) (x : List Char) : s.encodeOrigin ++ x =
    s.authorLine ++ '\n' :: ("seq ".toList ++ ((toString s.seq).toList ++ '\n' :: '\n' :: x)) := by
  have newline : "\nseq ".toList = '\n' :: "seq ".toList := by decide
  have newlines : "\n\n".toList = ['\n', '\n'] := by decide
  unfold encodeOrigin authorLine
  rw [newline, newlines]
  simp only [List.append_assoc, List.cons_append, List.nil_append]

lemma Plain.not_mem_authorLine (hs : s.Plain) {c : Char} (hc : c ∈ ['\x00', '\n']) :
    c ∉ s.authorLine := by
  have apart : ∀ c ∈ ['\x00', '\n'], c ∈ ['\x00', '<', '\n'] ∧ c ∉ "author ".toList ∧
      c ∉ " <".toList ∧ c ∉ ">".toList ∧ c ≠ ' ' ∧ c ≠ '-' ∧ c.isDigit = false := by simp
  obtain ⟨ends, author, opens, closes, blank, minus, digit⟩ := apart c hc
  have name : c ∉ s.author.name.toList := hs.name c ends
  have email : c ∉ s.author.email.toList := hs.email c hc
  have seconds : c ∉ (toString s.seconds.toInt).toList := not_mem_toString_int minus digit
  unfold authorLine Signature.text
  simp only [String.toList_append, List.mem_append, List.mem_cons, not_or]
  exact ⟨author, ⟨⟨⟨name, opens⟩, email⟩, closes⟩, blank, seconds⟩

lemma authorLine_unique (hs : s.Plain) (ht : t.Plain) (same : s.authorLine = t.authorLine) :
    s.author = t.author ∧ s.seconds = t.seconds := by
  have unmarked : ∀ n : Int, '>' ∉ ' ' :: (toString n).toList := by
    intro n
    rw [List.mem_cons, not_or]
    exact ⟨by decide, not_mem_toString_int (by decide) (by decide)⟩
  obtain ⟨author, times⟩ := Signature.text_unique (hs.name _ (by simp)) (ht.name _ (by simp))
    (unmarked _) (unmarked _) (List.append_cancel_left same)
  obtain ⟨-, times⟩ := List.cons.inj times
  exact ⟨author, Int64.toInt_inj.1 (Int.repr_inj.1 (String.toList_injective times))⟩

lemma encodeOrigin_unique (hs : s.Plain) (ht : t.Plain)
    (same : s.encodeOrigin ++ x = t.encodeOrigin ++ y) :
    (s.author = t.author ∧ s.seconds = t.seconds) ∧ s.seq = t.seq ∧ x = y := by
  rw [encodeOrigin_append, encodeOrigin_append] at same
  obtain ⟨lines, rest⟩ :=
    cut_unique (hs.not_mem_authorLine (by simp)) (ht.not_mem_authorLine (by simp)) same
  have digits : ∀ n : Nat, '\n' ∉ (toString n).toList :=
    fun n => not_mem_toString_nat (by decide) (by decide)
  obtain ⟨numbers, after⟩ := cut_unique (digits _) (digits _) (List.append_cancel_left rest)
  exact ⟨authorLine_unique hs ht lines, Nat.repr_inj.1 (String.toList_injective numbers),
    (List.cons.inj after).2⟩

/-! ### Where the files and the parents end -/

/-- All that stands behind the files. -/
def encodeRest (s : Snapshot) : List Char :=
  s.parents.flatMap encodeParent ++ (s.encodeOrigin ++ s.message.toList)

lemma encode_eq (s : Snapshot) : s.encode = s.tree.entries.flatMap encodeFile ++ s.encodeRest := by
  simp only [encode, encodeRest, List.append_assoc]

lemma Plain.nul_not_mem_rest (hs : s.Plain) : '\x00' ∉ s.encodeRest := by
  have line : '\x00' ∉ s.authorLine := hs.not_mem_authorLine (by simp)
  have number : '\x00' ∉ (toString s.seq).toList := not_mem_toString_nat (by decide) (by decide)
  have message : '\x00' ∉ s.message.toList := hs.message _ (by simp)
  have words : '\x00' ∉ "parent ".toList ∧ '\x00' ∉ "seq ".toList ∧ '\x00' ≠ '\n' := by decide
  obtain ⟨parent, seq, newline⟩ := words
  unfold encodeRest
  rw [encodeOrigin_append]
  simp only [List.mem_append, List.mem_cons, List.mem_flatMap, not_or, not_exists, not_and]
  refine ⟨fun p hp => ?_, line, newline, seq, number, newline, newline, message⟩
  have id : '\x00' ∉ p.hex.toList := hs.not_mem_parent hp (by decide)
  unfold encodeParent
  simp only [List.mem_append, List.mem_singleton, not_or]
  exact ⟨⟨parent, id⟩, newline⟩

lemma Plain.past_files (hs : s.Plain) :
    Past (fun file => Lacks file.1 ['\x00'] ∧ Lacks file.2 ['\x00']) encodeFile s.encodeRest := by
  intro file _ here
  exact hs.nul_not_mem_rest (here.subset (by simp [encodeFile]))

lemma past_parents (s : Snapshot) (x : List Char) :
    Past (fun parent => '\n' ∉ parent.hex.toList) encodeParent (s.encodeOrigin ++ x) := by
  intro parent _ here
  have letters : "parent ".toList = 'p' :: "arent ".toList ∧
      "author ".toList = 'a' :: "uthor ".toList := by decide
  rw [encodeOrigin_append] at here
  unfold encodeParent authorLine at here
  rw [letters.1, letters.2] at here
  have first := (List.cons_prefix_cons.1 here).1
  exact absurd first (by decide)

lemma encode_eq_of_bytes (same : s.bytes = t.bytes) : s.encode = t.encode := by
  have texts : String.ofList s.encode = String.ofList t.encode :=
    String.toByteArray_inj.1 (toList_injective same)
  exact String.ofList_inj.1 texts

/-- **What is hashed tells the whole commit.** If the bytes over which the ids of two commits are
taken are the same, then the commits have the same tree, parents, author, time, number and message,
provided that none of their parts has a character that separates it from the next. -/
theorem hashed_bytes_unambiguous (hs : s.Plain) (ht : t.Plain) (same : s.bytes = t.bytes) :
    s = t := by
  have texts : s.encode = t.encode := encode_eq_of_bytes same
  rw [encode_eq, encode_eq] at texts
  obtain ⟨files, rest⟩ :=
    delimited_encodeFile.flatMap hs.files ht.files hs.past_files ht.past_files texts
  obtain ⟨parents, rest⟩ := delimited_encodeParent.flatMap
    (fun _ hp => hs.not_mem_parent hp (by decide)) (fun _ hp => ht.not_mem_parent hp (by decide))
    (s.past_parents _) (t.past_parents _) rest
  obtain ⟨⟨author, seconds⟩, seq, message⟩ := encodeOrigin_unique hs ht rest
  have tree : s.tree = t.tree := Table.eq_of_entries files
  have message : s.message = t.message := String.toList_injective message
  obtain ⟨_, _, _, _, _, _⟩ := s
  rw [Snapshot.mk.injEq]
  exact ⟨tree, parents, author, seconds, seq, message⟩

/-- A commit whose parts hold what stands between the parts of others. -/
def misleading (tree : Tree) : Snapshot where
  tree
  parents := [⟨"dfd15ba2552e437ad106043bdfb46685c8d17c74"⟩]
  author := ⟨"a> 1", "<b> 2"⟩
  seconds := -3
  seq := 4
  message := "\nseq 5\n\n"

/-- In which order the files have been put into the tree does not matter. -/
theorem hashed_bytes_unambiguous_reordered :
    (misleading (.ofList [("parent ", "\n"), ("author", "")])).Plain ∧
      (misleading (.ofList [("author", ""), ("parent ", "\n")])).Plain ∧
      (misleading (.ofList [("parent ", "\n"), ("author", "")])).bytes =
        (misleading (.ofList [("author", ""), ("parent ", "\n")])).bytes ∧
      misleading (.ofList [("parent ", "\n"), ("author", "")]) =
        misleading (.ofList [("author", ""), ("parent ", "\n")]) := by
  have one : (misleading (.ofList [("parent ", "\n"), ("author", "")])).Plain :=
    ⟨by decide +kernel, by decide +kernel, by decide +kernel, by decide +kernel, by decide +kernel⟩
  have other : (misleading (.ofList [("author", ""), ("parent ", "\n")])).Plain :=
    ⟨by decide +kernel, by decide +kernel, by decide +kernel, by decide +kernel, by decide +kernel⟩
  have bytes : (misleading (.ofList [("parent ", "\n"), ("author", "")])).bytes =
      (misleading (.ofList [("author", ""), ("parent ", "\n")])).bytes := by decide +kernel
  exact ⟨one, other, bytes, hashed_bytes_unambiguous one other bytes⟩

end Snapshot

end GitTutor
