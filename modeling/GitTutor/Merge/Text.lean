import GitTutor.Text.Lines

/-!
Merging two versions of a text over their common base.

The merge works on lines and gives a list of regions. If all three versions have equally many
lines, each line is merged on its own, and disputed lines that follow one another make one
region. Otherwise the lines that all three share at the start and at the end are set aside, and
the rest is merged as one block.
-/

namespace GitTutor.Merge

open GitTutor.Text

/-- A line with its newline, which the last line of a text may lack. -/
abbrev Line := List Char

inductive Region where
  | settled (lines : List Line)
  | disputed (ours theirs : List Line)
  deriving DecidableEq

def Region.isDisputed : Region → Bool
  | .settled _ => false
  | .disputed _ _ => true

/-- The version that stands where at most one side has changed the base, or both alike. -/
def pick {α : Type} [DecidableEq α] (base ours theirs : α) : Option α :=
  if ours = theirs ∨ theirs = base then some ours
  else if ours = base then some theirs
  else none

/-- Puts one disputed line before the regions after it. -/
def dispute (ours theirs : Line) : List Region → List Region
  | .disputed os ts :: rest => .disputed (ours :: os) (theirs :: ts) :: rest
  | rest => .disputed [ours] [theirs] :: rest

def byLine : List Line → List Line → List Line → List Region
  | b :: bs, o :: os, t :: ts =>
    match pick b o t with
    | some line => .settled [line] :: byLine bs os ts
    | none => dispute o t (byLine bs os ts)
  | _, _, _ => []

/-- The lines that all three versions start with. -/
def shared : List Line → List Line → List Line → List Line
  | b :: bs, o :: os, t :: ts => if b = o ∧ b = t then b :: shared bs os ts else []
  | _, _, _ => []

def byBlock (base ours theirs : List Line) : List Region :=
  let top := shared base ours theirs
  let b := base.drop top.length
  let o := ours.drop top.length
  let t := theirs.drop top.length
  let bottom := (shared b.reverse o.reverse t.reverse).reverse
  let middle := fun version : List Line => version.take (version.length - bottom.length)
  let region :=
    match pick (middle b) (middle o) (middle t) with
    | some lines => .settled lines
    | none => .disputed (middle o) (middle t)
  [.settled top, region, .settled bottom]

def regions (base ours theirs : List Line) : List Region :=
  if base.length = ours.length ∧ base.length = theirs.length then byLine base ours theirs
  else byBlock base ours theirs

/-! ### Texts -/

def startMark : List Char := "<<<<<<<".toList
def dividerMark : List Char := "=======".toList
def endMark : List Char := ">>>>>>>".toList

/-- The names of the two sides, as they stand behind the marks. -/
structure Labels where
  ours : String
  theirs : String

/-- A line with its newline, even at the end of a text. -/
def completed (line : Line) : Line := if line.getLast? = some '\n' then line else line ++ ['\n']

def Region.render (labels : Labels) : Region → List Char
  | .settled lines => lines.flatten
  | .disputed ours theirs =>
    startMark ++ ' ' :: labels.ours.toList ++ '\n' :: (ours.map completed).flatten ++
      dividerMark ++ '\n' :: (theirs.map completed).flatten ++
      endMark ++ ' ' :: labels.theirs.toList ++ ['\n']

inductive MergedText where
  | clean (text : String)
  /-- A text with marks around its disputed regions. -/
  | conflict (text : String)
  deriving DecidableEq

def mergeText (labels : Labels) (base ours theirs : String) : MergedText :=
  let rs := regions (pieces base.toList) (pieces ours.toList) (pieces theirs.toList)
  let text := String.ofList (rs.flatMap (Region.render labels))
  if rs.any Region.isDisputed then .conflict text else .clean text

/-! ### Marks in a text -/

/-- Whether lines hold a start mark, after it a divider, and after that an end mark. -/
def lineMarks (ls : List Line) : Bool :=
  let afterStart := (ls.dropWhile fun l => !startMark.isPrefixOf l).drop 1
  let afterDivider := (afterStart.dropWhile fun l => !dividerMark.isPrefixOf l).drop 1
  afterDivider.any fun l => endMark.isPrefixOf l

/-- Whether a text holds at least one whole conflict region. -/
def hasMarks (text : String) : Bool := lineMarks (lines text.toList)

end GitTutor.Merge
