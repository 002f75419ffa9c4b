import GitTutor.Session.Basic
import GitTutor.Proofs.Merge.Marks
import GitTutor.Proofs.Workspace.Resolution
import GitTutor.Proofs.Workspace.ThreeWay

/-!
What `git conflicts` lists after a merge has stopped.

The command knows nothing of merges. It looks for files with marks, and a merge that stops writes
marks into the files that it names and into no others. Both lists are the same if no line opened a
conflict region before the merge, and if ids do not collide: a commit that takes the place of
another one under the same id can make a file disputed that one side does not have, and such a file
is kept without marks.
-/

namespace GitTutor

open Merge

/-! ### Texts without conflict regions -/

/-- No line of a file opens a conflict region. -/
def AllUnopened (files : Tree) : Prop := ∀ file ∈ files.entries, Unopened file.2

instance (files : Tree) : Decidable (AllUnopened files) :=
  inferInstanceAs (Decidable (∀ file ∈ files.entries, Unopened file.2))

lemma AllUnopened.get? {files : Tree} (h : AllUnopened files) {path content : String}
    (file : files.get? path = some content) : Unopened content :=
  h _ (Entries.mem_of_find file)

lemma Settles.unopened {labels : Labels} {base ours theirs : Option String} {content : String}
    (h : Settles labels base ours theirs (some content))
    (hours : ∀ text, ours = some text → Unopened text)
    (htheirs : ∀ text, theirs = some text → Unopened text) : Unopened content := by
  rcases kept_or_taken_or_apart base ours theirs with keep | take | apart
  · exact hours content (h.keep keep).symm
  · exact htheirs content (h.take take).symm
  · obtain ⟨o, t, text, ho, ht, clean, hcontent⟩ := h.apart apart
    obtain rfl := Option.some.inj hcontent
    exact unopened_of_clean (hours o ho) (htheirs t ht) clean

namespace Workspace

open Repository

variable {w w' : Workspace} {r r' : Repository} {now : Int64} {reference here there : String}
  {author : Signature} {paths : List String} {base ours theirs : CommitId}

/-! ### Files with marks -/

lemma markedFiles_eq (w : Workspace) :
    w.markedFiles = (w.files.pick fun path content =>
      if path ≠ metadataDir ∧ hasMarks content = true then some () else none).names := by
  have hvisible : w.visible = w.files.names.filter (· ≠ metadataDir) := by
    unfold visible entries
    split_ifs <;> simp
  rw [markedFiles, hvisible, List.filter_filter, Table.names_pick, Table.names, List.filter_map]
  refine congrArg _ (List.filter_congr fun file hfile => ?_)
  have hread : w.read file.1 = some file.2 := Entries.find_of_mem w.files.sorted hfile
  by_cases hname : file.1 = metadataDir <;> cases hmarks : hasMarks file.2 <;>
    simp [hread, hname, hmarks]

/-! ### The files of a merge that has stopped -/

lemma halted_of_mergeConflict (hs : Sound w) (stopped :
      w.merge now reference author = (.error (.mergeConflict here there paths), w')) :
    ∃ r base ours theirs r', Ready w r reference ours theirs ∧ w'.repository = some r' ∧
      Halted r r' w.files w'.files reference base ours theirs paths := by
  obtain ⟨r, ours, theirs, files, ready, disputes, swap, rfl, rfl⟩ :=
    stopped_of_mergeConflict stopped
  obtain ⟨hl, -⟩ := hs r ready.repository
  obtain ⟨base, hbase⟩ := hl.grown.exists_mergeBase (hl.head ready.tip)
    (hl.resolve_mem ready.names)
  exact ⟨r, base, ours, theirs, _, ready, rfl, halted_of_stopped hl hbase disputes swap⟩

lemma Ready.file (ready : Ready w r reference ours theirs) (layers : Layered r w.files)
    {path content : String} (h : (r.treeOf ours).get? path = some content) :
    w.files.get? path = some content := by
  rw [← headTree_of_tip ready.tip] at h
  obtain ⟨staged, hstaged⟩ := layers.headTree.get? h
  obtain ⟨hhead, hfile⟩ := eq_of_clean ready.calm ready.clean hstaged
  rwa [← hhead, h] at hfile

lemma unopened_of_settled (layers : Layered r w.files) (ready : Ready w r reference ours theirs)
    (halted : Halted r r' w.files w'.files reference base ours theirs paths)
    (unopened : AllUnopened w.files) (unopened' : AllUnopened (r.treeOf theirs)) {path : String}
    (settled : path ∉ paths) {content : String} (file : w'.files.get? path = some content) :
    Unopened content := by
  obtain ⟨settles, hfile⟩ := halted.settled path settled
  rw [hfile] at file
  cases hindex : r'.index.get? path with
  | none =>
    -- The file is not tracked, and the merge has left it alone.
    rw [hindex, Option.none_or] at file
    exact unopened.get? file
  | some text =>
    rw [hindex, Option.some_or] at file
    obtain rfl := Option.some.inj file
    rw [hindex] at settles
    exact settles.unopened (fun _ ho => unopened.get? (ready.file layers ho))
      fun _ ht => unopened'.get? ht

/-- A merge that stops writes marks into the files that it names and into no others. -/
lemma marked_eq_conflicts (layers : Layered r w.files) (ready : Ready w r reference ours theirs)
    (halted : Halted r r' w.files w'.files reference base ours theirs paths)
    (plain : w.files.get? metadataDir = none) (unopened : AllUnopened w.files)
    (unopened' : AllUnopened (r.treeOf theirs)) :
    (w'.files.pick fun path content =>
      if path ≠ metadataDir ∧ hasMarks content = true then some () else none) = r'.conflicts := by
  refine Table.ext fun path => ?_
  rw [Table.get?_pick]
  by_cases named : path ∈ paths
  -- A file that is named shows its dispute between marks.
  · obtain ⟨text, disputes⟩ := (halted.mem_paths path).1 named
    obtain ⟨o, t, ho, ht, conflict⟩ := disputes.clash
    have hname : path ≠ metadataDir := by
      rintro rfl
      rw [ready.file layers ho] at plain
      cases plain
    have hconflict : r'.conflicts.get? path = some () := by
      rw [← halted.conflicts, Table.mem_names_iff, Table.contains_iff] at named
      exact named.choose_spec
    rw [(halted.disputed path text disputes).2, hconflict, Option.bind_some,
      if_pos ⟨hname, hasMarks_of_conflict conflict⟩]
  · have hconflict : r'.conflicts.get? path = none := by
      rw [← Table.contains_eq_false_iff, ← Bool.not_eq_true, ← Table.mem_names_iff,
        halted.conflicts]
      exact named
    rw [hconflict, Option.bind_eq_none_iff]
    intro content file
    have bare : hasMarks content = false := hasMarks_of_unopened
      (unopened_of_settled layers ready halted unopened unopened' named file)
    rw [if_neg (by simp [bare])]

/-- **After a merge has stopped, `git conflicts` lists exactly the files in conflict.** Where no
file has the name of the repository and no line opens a conflict region, be it in a file or in the
commit that is merged, the visible files with marks are those that the merge names, in the same
order, and so are those that the status tells of. -/
theorem conflicts_listed (hw : Reachable w) (plain : w.files.get? metadataDir = none)
    (unopened : AllUnopened w.files)
    (unopened' : ∀ r theirs, w.repository = some r → r.resolve reference = .ok theirs →
      AllUnopened (r.treeOf theirs))
    (stopped : w.merge now reference author = (.error (.mergeConflict here there paths), w')) :
    w'.markedFiles = paths ∧
      (∃ entries, w'.status = .ok entries ∧
        (entries.filter fun e => e.2 = .conflicted).map (·.1) = paths) ∧
      ∀ s : Session, s.workspace = w' →
        s.conflicts = (.ok ("Files with conflicts:\n" ++ bullets paths), s) := by
  obtain ⟨r, base, ours, theirs, r', ready, -, halted⟩ := halted_of_mergeConflict hw.sound stopped
  obtain ⟨-, layers⟩ := hw.sound r ready.repository
  have marked : w'.markedFiles = paths := by
    rw [markedFiles_eq, marked_eq_conflicts layers ready halted plain unopened
      (unopened' r theirs ready.repository ready.names), halted.conflicts]
  refine ⟨marked, ?_, fun s hs => ?_⟩
  · obtain ⟨_, _, _, -, _, awaits⟩ := awaits_of_stopped hw stopped
    exact awaits.protocol.status
  · have nonempty : paths.isEmpty = false := by simpa using halted.nonempty
    simp only [Session.conflicts, hs, marked, nonempty, Bool.false_eq_true, if_false]

/-- The merge of `main` has stopped on the one file that both branches have changed. -/
theorem conflicts_listed_halted :
    Reachable diverged ∧ diverged.files.get? metadataDir = none ∧ AllUnopened diverged.files ∧
      (∀ r theirs, diverged.repository = some r → r.resolve "main" = .ok theirs →
        AllUnopened (r.treeOf theirs)) ∧
      diverged.merge 0 "main" ⟨"", ""⟩ = (.error (.mergeConflict "b" "main" ["a"]), halted) ∧
      halted.markedFiles = ["a"] ∧
      (∃ entries, halted.status = .ok entries ∧
        (entries.filter fun e => e.2 = .conflicted).map (·.1) = ["a"]) ∧
      ∀ s : Session, s.workspace = halted →
        s.conflicts = (.ok ("Files with conflicts:\n" ++ bullets ["a"]), s) := by
  have plain : diverged.files.get? metadataDir = none := by decide +kernel
  have unopened : AllUnopened diverged.files := by decide +kernel
  have unopened' : ∀ r theirs, diverged.repository = some r → r.resolve "main" = .ok theirs →
      AllUnopened (r.treeOf theirs) := by
    intro r theirs hr names
    obtain rfl := Option.some.inj hr
    obtain rfl : mainId = theirs :=
      Except.ok.inj ((by decide +kernel : divergedRepository.resolve "main" = .ok mainId).symm.trans
        names)
    decide +kernel
  exact ⟨reachable_diverged, plain, unopened, unopened', merge_diverged_halts,
    conflicts_listed reachable_diverged plain unopened unopened' merge_diverged_halts⟩

/-! ### Ids that collide -/

/-- The workspace that operations leave, fresh or not. -/
def performed (ops : List Operation) : Workspace :=
  ops.foldl (fun w op => (op.perform w).2) .empty

/-- The first commit of `collided`. -/
def rootId : CommitId := ⟨"db065e2272e95abe4671d383535ba5296c1e62a3"⟩

/-- What a commit on top of `rootId` is hashed from, its files and its message apart. -/
def onRoot (seq : Nat) : String := s!"parent {rootId.hex}\nauthor  <> 0\nseq {seq}\n\n"

/-- A commit of `b` takes the place of one that `main` is based on. Where the message of the first
one goes on with `onRoot 3`, the second one has a file that is named `onRoot 1`, so that both are
hashed from the same text. -/
def colliding : List Operation :=
  [.init "main", .write "a" "0", .add "a", .commit 0 "" ⟨"", ""⟩, .createBranch "b",
    .write "a" "1", .add "a", .commit 0 ("\x00b\x00" ++ onRoot 3) ⟨"", ""⟩,
    .write "a" "2", .add "a", .commit 0 "" ⟨"", ""⟩,
    .checkout "b", .write "a" "1", .write (onRoot 1) "b", .add "a", .add (onRoot 1),
    .commit 0 "" ⟨"", ""⟩, .write (onRoot 1) "c", .add (onRoot 1), .commit 0 "" ⟨"", ""⟩,
    .checkout "main"]

/-- The id that two commits of `colliding` have. -/
def sharedId : CommitId := ⟨"f136e014d9ab8f326832644e586844fe4c6c570e"⟩

def collidedRepository : Repository where
  history :=
    [{ tree := .ofList [("a", "1"), (onRoot 1, "c")], parents := [sharedId], author := ⟨"", ""⟩
       seconds := 0, seq := 3, message := "", id := ⟨"bfb48732b0d503dd49d7304097ad43efbbf981c9"⟩ },
      { tree := .ofList [("a", "1"), (onRoot 1, "b")], parents := [rootId], author := ⟨"", ""⟩
        seconds := 0, seq := 3, message := "", id := sharedId },
      { tree := .ofList [("a", "2")], parents := [sharedId], author := ⟨"", ""⟩, seconds := 0
        seq := 2, message := "", id := ⟨"608c9e363b7acfb071e82f9e6900ff7b89211e5a"⟩ },
      { tree := .ofList [("a", "0")], parents := [], author := ⟨"", ""⟩, seconds := 0
        seq := 0, message := "", id := rootId }]
  branches := .ofList
    [("b", ⟨"bfb48732b0d503dd49d7304097ad43efbbf981c9"⟩),
      ("main", ⟨"608c9e363b7acfb071e82f9e6900ff7b89211e5a"⟩)]
  head := .branch "main"
  index := .ofList [("a", "2")]
  conflicts := ∅
  mergeHead := none
  remotes := ∅

/-- What `colliding` makes. The commit of `main` no longer has all files of the one before it. -/
def collided : Workspace := ⟨.ofList [("a", "2")], some collidedRepository⟩

lemma performed_colliding : performed colliding = collided := by decide +kernel

/-- The merge of `b` into `main` has stopped on a file that only `b` has. -/
def unmarked : Workspace :=
  ⟨.ofList [("a", "2"), (onRoot 1, "c")], some { collidedRepository with
    conflicts := .ofList [onRoot 1]
    mergeHead := some ⟨"bfb48732b0d503dd49d7304097ad43efbbf981c9"⟩ }⟩

lemma merge_collided : collided.merge 0 "b" ⟨"", ""⟩ =
    (.error (.mergeConflict "main" "b" [onRoot 1]), unmarked) := by
  decide +kernel

/-- Where ids collide, a file can be in conflict that has no marks. -/
theorem not_conflicts_listed_after_collision :
    ¬∀ ops now reference author here there paths w',
      (performed ops).files.get? metadataDir = none → AllUnopened (performed ops).files →
      (∀ r theirs, (performed ops).repository = some r → r.resolve reference = .ok theirs →
        AllUnopened (r.treeOf theirs)) →
      (performed ops).merge now reference author =
        (.error (.mergeConflict here there paths), w') → w'.markedFiles = paths := by
  intro h
  have unopened' : ∀ theirs ∈ (collidedRepository.resolve "b").toOption,
      AllUnopened (collidedRepository.treeOf theirs) := by
    decide +kernel
  have marked := h colliding 0 "b" ⟨"", ""⟩ "main" "b" [onRoot 1] unmarked
  rw [performed_colliding] at marked
  have hmarked := marked (by decide +kernel) (by decide +kernel)
    (fun r theirs hr names => by
      obtain rfl := Option.some.inj hr
      exact unopened' theirs (by rw [names]; rfl)) merge_collided
  revert hmarked
  decide +kernel

end Workspace

end GitTutor
