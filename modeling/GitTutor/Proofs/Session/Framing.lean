import GitTutor.Proofs.Text.Lines
import GitTutor.Proofs.Text.Trimming
import GitTutor.Shell
import Mathlib.Data.List.DropRight

/-!
Files that are written line by line.

While the shell takes the lines of a file, it looks at them for nothing but the lone dot. So neither
what the lines spell nor when they are entered matters: they are kept as they are, in order, and
neither the session nor the shell is asked for anything before the dot, or the end of the input,
saves the file.
-/

namespace GitTutor.Shell

open Text

variable {catalog : List Activity} {now : Int64} {s : Session} {path : String}
  {lines : List String} {input : List Entry}

/-! ### What is typed -/

/-- A path that can be given on a line. -/
structure IsPath (path : String) : Prop where
  nonempty : path ≠ ""
  unbroken : '\n' ∉ path.toList
  bare : trim path.toList = path.toList

/-- A line that can stand in a file. A carriage return at its end would count as part of the line's
end. -/
structure IsContent (line : String) : Prop where
  unbroken : '\n' ∉ line.toList
  not_dot : line ≠ "."
  unreturned : line.toList.getLast? ≠ some '\r'

instance (path : String) : Decidable (IsPath path) :=
  decidable_of_iff (path ≠ "" ∧ '\n' ∉ path.toList ∧ trim path.toList = path.toList)
    ⟨fun h => ⟨h.1, h.2.1, h.2.2⟩, fun h => ⟨h.nonempty, h.unbroken, h.bare⟩⟩

instance (line : String) : Decidable (IsContent line) :=
  decidable_of_iff ('\n' ∉ line.toList ∧ line ≠ "." ∧ line.toList.getLast? ≠ some '\r')
    ⟨fun h => ⟨h.1, h.2.1, h.2.2⟩, fun h => ⟨h.unbroken, h.not_dot, h.unreturned⟩⟩

/-- The lines of an input make up a text, whenever they are entered. -/
def Enters (input : List Entry) (text : String) : Prop := input.map (·.line) = pieces text.toList

instance (input : List Entry) (text : String) : Decidable (Enters input text) :=
  inferInstanceAs (Decidable (_ = _))

/-- Lines, each with its newline. -/
def ended (lines : List String) : String := String.join (lines.map (· ++ "\n"))

/-- The start of a script that writes a file. -/
def typed (path : String) (lines : List String) : String :=
  ":write " ++ path ++ "\n" ++ ended lines

/-- What the shell says before it takes the lines of a file. -/
def invitation (path : String) : String :=
  s!"Enter the content of {path}. Finish with a line containing only \".\"\n"

lemma toList_ended_cons (line : String) (lines : List String) :
    (ended (line :: lines)).toList = line.toList ++ '\n' :: (ended lines).toList := by
  simp [ended, String.toList_join]

lemma pieces_ended_append (unbroken : ∀ line ∈ lines, '\n' ∉ line.toList) (s : List Char) :
    pieces ((ended lines).toList ++ s) = lines.map (·.toList ++ ['\n']) ++ pieces s := by
  induction lines with
  | nil => rfl
  | cons line lines ih =>
    obtain ⟨first, rest⟩ := List.forall_mem_cons.1 unbroken
    rw [toList_ended_cons, List.append_assoc, List.cons_append, pieces_unbroken_append first,
      ih rest]
    rfl

/-! ### What the shell makes of it -/

lemma feed_opening (h : IsPath path) :
    feed catalog now ⟨s, .command⟩ (":write " ++ path ++ "\n").toList =
      (⟨s, .file path []⟩, invitation path) := by
  have nonempty : path.toList ≠ [] := by simpa using h.nonempty
  have trimmed : trim (":write " ++ path ++ "\n").toList = (":write " ++ path).toList := by
    rw [String.toList_append, trim_append_of_allBlank _ (by decide), trim_eq_self_iff]
    have last : (":write " ++ path).toList.getLast? = path.toList.getLast? := by
      rw [String.toList_append, List.getLast?_append, List.getLast?_eq_some_getLast nonempty,
        Option.some_or]
    rw [last]
    exact ⟨by simp; decide, (trim_eq_self_iff.1 h.bare).2⟩
  have laid : (":write " ++ path).toList = ':' :: ("write".toList ++ ' ' :: path.toList) := by
    simp
  have cut : cutAtBlank ("write".toList ++ ' ' :: path.toList) =
      some ("write".toList, path.toList) := rfl
  rw [feed]
  simp only [trimmed, laid, direct, cut, h.bare, String.ofList_toList]
  rw [startFile, if_neg (by simpa using h.nonempty)]
  rfl

lemma fileLine_of_content {line : String} (h : IsContent line) :
    fileLine (line.toList ++ ['\n']) = line.toList ∧ fileLine line.toList = line.toList := by
  have drop : ∀ l, fileLine l = l.rdropWhile fun c => c = '\n' || c = '\r' := fun _ => rfl
  have bare : fileLine line.toList = line.toList := by
    rw [drop, List.rdropWhile_eq_self_iff]
    intro nonempty
    have newline : line.toList.getLast nonempty ≠ '\n' :=
      fun h' => h.unbroken (h' ▸ List.getLast_mem nonempty)
    have return_ : line.toList.getLast nonempty ≠ '\r' :=
      fun h' => h.unreturned (by rw [List.getLast?_eq_some_getLast nonempty, h'])
    simp [newline, return_]
  refine ⟨?_, bare⟩
  rw [drop, List.rdropWhile_concat_pos _ _ _ (by decide), ← drop, bare]

lemma feed_content {line : String} (h : IsContent line) {typed : List Char}
    (bare : fileLine typed = line.toList) (content : List Char) :
    feed catalog now ⟨s, .file path content⟩ typed =
      (⟨s, .file path (content ++ line.toList ++ ['\n'])⟩, "") := by
  have other : line.toList ≠ ['.'] := fun dot => h.not_dot (String.toList_injective dot)
  rw [feed]
  simp only [bare, if_neg other]

lemma feed_dot {typed : List Char} (bare : fileLine typed = ['.']) (content : List Char) :
    feed catalog now ⟨s, .file path content⟩ typed = saveFile s path content := by
  rw [feed]
  simp only [bare, if_pos]

lemma feedAll_content (contents : ∀ line ∈ lines, IsContent line)
    (entered : input.map (·.line) = lines.map (·.toList ++ ['\n'])) (content : List Char)
    (rest : List Entry) :
    feedAll catalog ⟨s, .file path content⟩ (input ++ rest) =
      feedAll catalog ⟨s, .file path (content ++ (ended lines).toList)⟩ rest := by
  induction lines generalizing content input with
  | nil =>
    obtain rfl : input = [] := List.map_eq_nil_iff.1 entered
    simp [ended, String.join]
  | cons line lines ih =>
    obtain ⟨first, others⟩ := List.forall_mem_cons.1 contents
    obtain ⟨entry, input, rfl, hline, entered⟩ := List.map_eq_cons_iff.1 entered
    rw [List.cons_append, feedAll, hline, feed_content first (fileLine_of_content first).1]
    simp only
    rw [ih others entered, toList_ended_cons]
    simp

lemma feedAll_typed (h : IsPath path) (contents : ∀ line ∈ lines, IsContent line) (s : Session)
    {rest : String} (entered : Enters input (typed path lines ++ rest)) :
    Enters (input.drop (lines.length + 1)) rest ∧
      feedAll catalog ⟨s, .command⟩ input =
        let (shell, output) := feedAll catalog ⟨s, .file path (ended lines).toList⟩
          (input.drop (lines.length + 1))
        (shell, invitation path ++ output) := by
  have opening : '\n' ∉ (":write " ++ path).toList := by
    rw [String.toList_append, List.mem_append]
    exact not_or.2 ⟨by decide, h.unbroken⟩
  have laid : (typed path lines ++ rest).toList =
      (":write " ++ path).toList ++ '\n' :: ((ended lines).toList ++ rest.toList) := by
    simp [typed]
  have line : (":write " ++ path).toList ++ ['\n'] = (":write " ++ path ++ "\n").toList := by
    simp
  rw [Enters, laid, pieces_unbroken_append opening, line,
    pieces_ended_append fun line hl => (contents line hl).unbroken] at entered
  -- One entry opens the file, those of `body` are its lines, and `later` is what follows.
  obtain ⟨entry, input, rfl, hline, entered⟩ := List.map_eq_cons_iff.1 entered
  obtain ⟨body, later, rfl, hbody, hlater⟩ := List.map_eq_append_iff.1 entered
  have length : body.length = lines.length := by
    rw [← List.length_map (·.line), hbody, List.length_map]
  rw [List.drop_succ_cons, ← length, List.drop_left, feedAll, hline, feed_opening h]
  refine ⟨hlater, ?_⟩
  simp only
  rw [feedAll_content contents hbody, List.nil_append]

lemma feedAll_only_typed (h : IsPath path) (contents : ∀ line ∈ lines, IsContent line)
    (s : Session) (entered : Enters input (typed path lines)) :
    feedAll catalog ⟨s, .command⟩ input =
      (⟨s, .file path (ended lines).toList⟩, invitation path) := by
  rw [← String.append_empty (s := typed path lines)] at entered
  obtain ⟨entered, fed⟩ := feedAll_typed h contents s entered
  have nothing : input.drop (lines.length + 1) = [] := List.map_eq_nil_iff.1 entered
  rw [fed, nothing]
  simp [feedAll]

/-! ### Whole inputs -/

lemma serve_fst (catalog : List Activity) (s : Session) (input : List Entry) :
    (serve catalog s input).1 =
      (feedAll catalog ⟨s, .command⟩ input).1.finish.1.session := rfl

lemma serve_typed (catalog : List Activity) (s : Session) (h : IsPath path)
    (contents : ∀ line ∈ lines, IsContent line) {rest : String}
    (entered : Enters input (typed path lines ++ ".\n" ++ rest)) :
    Enters (input.drop (lines.length + 2)) rest ∧
      (serve catalog s input).1 =
        (serve catalog (s.write path (ended lines)) (input.drop (lines.length + 2))).1 := by
  rw [String.append_assoc] at entered
  obtain ⟨entered, fed⟩ := feedAll_typed h contents s entered
  have laid : (".\n" ++ rest).toList = ['.'] ++ '\n' :: rest.toList := by simp
  rw [Enters, laid, pieces_unbroken_append (by decide)] at entered
  obtain ⟨entry, later, hdrop, hline, hlater⟩ := List.map_eq_cons_iff.1 entered
  have next : input.drop (lines.length + 2) = later := by
    rw [← List.drop_drop (i := 1), hdrop, List.drop_succ_cons, List.drop_zero]
  rw [next]
  refine ⟨hlater, ?_⟩
  rw [serve_fst, serve_fst, fed, hdrop, feedAll, hline, feed_dot rfl, saveFile,
    String.ofList_toList]
  rfl

lemma enters_entries (now : Int64) (text : String) : Enters (entries now text) text := by
  rw [Enters, entries, List.map_map]
  exact List.map_id _

lemma drop_entries {text rest : String} {k : Nat}
    (entered : Enters ((entries now text).drop k) rest) :
    (entries now text).drop k = entries now rest := by
  rw [Enters, List.map_drop, enters_entries] at entered
  rw [entries, ← List.map_drop, entered, entries]

/-- How an input that writes a file is served. -/
structure Framed (catalog : List Activity) (s : Session) (path : String) (lines : List String) :
    Prop where
  /-- What follows the lone dot is an input of its own, and it finds the file saved. -/
  continued : ∀ rest input, Enters input (typed path lines ++ ".\n" ++ rest) →
    Enters (input.drop (lines.length + 2)) rest ∧
      (serve catalog s input).1 =
        (serve catalog (s.write path (ended lines)) (input.drop (lines.length + 2))).1
  /-- So it is with a script that is run at one moment. -/
  scripted : ∀ now rest, (run catalog now s (typed path lines ++ ".\n" ++ rest)).1 =
    (run catalog now (s.write path (ended lines)) rest).1
  /-- While the lines are taken, the session is not asked for anything, and the shell is silent. -/
  collected : ∀ k input, Enters input (typed path (lines.take k)) →
    feedAll catalog (start s).1 input =
      (⟨s, .file path (ended (lines.take k)).toList⟩, invitation path)
  /-- Without the dot, the lines are saved when the input ends. -/
  unfinished : ∀ input, Enters input (typed path lines) →
    (serve catalog s input).1 = s.write path (ended lines)
  /-- So they are when the last of them lacks its newline, -/
  cutOff : ∀ last, IsContent last → last ≠ "" → ∀ input, Enters input (typed path lines ++ last) →
    (serve catalog s input).1 = s.write path (ended (lines ++ [last]))
  /-- or when the dot does. -/
  dotted : ∀ input, Enters input (typed path lines ++ ".") →
    (serve catalog s input).1 = s.write path (ended lines)

/-- **A file is what is typed between its path and the lone dot**, whenever its lines are
entered. -/
theorem write_framed (catalog : List Activity) (s : Session) (h : IsPath path)
    (contents : ∀ line ∈ lines, IsContent line) : Framed catalog s path lines where
  continued rest input entered := serve_typed catalog s h contents entered
  scripted now rest := by
    obtain ⟨entered, served⟩ := serve_typed catalog s h contents (enters_entries now _)
    rw [run, served, drop_entries entered, run]
  collected k input entered :=
    feedAll_only_typed h (fun line hl => contents line (List.mem_of_mem_take hl)) s entered
  unfinished input entered := by
    rw [serve_fst, feedAll_only_typed h contents s entered]
    simp [finish, saveFile, ready]
  cutOff last hlast nonempty input entered := by
    obtain ⟨entered, fed⟩ := feedAll_typed h contents s entered
    have line : pieces last.toList = [last.toList] :=
      pieces_of_unbroken (by simpa using nonempty) hlast.unbroken
    rw [Enters, line] at entered
    obtain ⟨entry, hdrop, hline⟩ := List.map_eq_singleton_iff.1 entered
    have whole : (ended lines).toList ++ last.toList ++ ['\n'] =
        (ended (lines ++ [last])).toList := by
      simp [ended]
    rw [serve_fst, fed, hdrop, feedAll, hline, feed_content hlast (fileLine_of_content hlast).2,
      whole]
    simp [feedAll, finish, saveFile, ready]
  dotted input entered := by
    obtain ⟨entered, fed⟩ := feedAll_typed h contents s entered
    have line : pieces ".".toList = [['.']] := rfl
    rw [Enters, line] at entered
    obtain ⟨entry, hdrop, hline⟩ := List.map_eq_singleton_iff.1 entered
    rw [serve_fst, fed, hdrop, feedAll, hline, feed_dot rfl]
    simp [feedAll, finish, saveFile, ready]

/-- Lines that look like commands and dots, and then commands, a second apart. -/
def pageInput : List Entry :=
  [⟨0, ":write my page\n".toList⟩, ⟨1, "git init\n".toList⟩, ⟨2, ":quit\n".toList⟩, ⟨3, ['\n']⟩,
    ⟨4, "..\n".toList⟩, ⟨5, " . \n".toList⟩, ⟨6, ".\n".toList⟩, ⟨7, "git init\n".toList⟩,
    ⟨8, "git add .\n".toList⟩, ⟨9, "git commit -m page\n".toList⟩]

/-- The lines are kept, and each of the commands behind them is run at its own time. -/
theorem write_framed_commands :
    IsPath "my page" ∧ (∀ line ∈ ["git init", ":quit", "", "..", " . "], IsContent line) ∧
      Enters pageInput (":write my page\ngit init\n:quit\n\n..\n . \n" ++ ".\n" ++
        "git init\ngit add .\ngit commit -m page\n") ∧
      (serve [] (.new .inMemory ⟨"", ""⟩) pageInput).1 =
        (serve [] (Session.write (.new .inMemory ⟨"", ""⟩) "my page"
            "git init\n:quit\n\n..\n . \n")
          [⟨7, "git init\n".toList⟩, ⟨8, "git add .\n".toList⟩,
            ⟨9, "git commit -m page\n".toList⟩]).1 := by
  have path : IsPath "my page" := by decide +kernel
  have contents : ∀ line ∈ ["git init", ":quit", "", "..", " . "], IsContent line := by
    decide +kernel
  have entered : Enters pageInput (":write my page\ngit init\n:quit\n\n..\n . \n" ++ ".\n" ++
      "git init\ngit add .\ngit commit -m page\n") := by
    decide +kernel
  have framed := write_framed [] (.new .inMemory ⟨"", ""⟩) path contents
  exact ⟨path, contents, entered, (framed.continued _ pageInput entered).2⟩

end GitTutor.Shell
