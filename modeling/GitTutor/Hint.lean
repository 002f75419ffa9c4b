import GitTutor.Text.Blank
import GitTutor.Text.Search

/-!
Hints that are given once.

A hint travels inside a reply between two marks. `HintLog.attach` puts it there the first time
its key comes up, and `Hint.split` takes it out again.
-/

namespace GitTutor

open Text

namespace Hint

def startMark : List Char := "[[HINT_START]]".toList
def endMark : List Char := "[[HINT_END]]".toList

def block (lines : List String) : List Char :=
  startMark ++ '\n' :: ("\n".intercalate lines).toList ++ '\n' :: endMark

/-- A reply with the block of a hint after it. -/
def join (reply : String) (lines : List String) : String :=
  if reply.isEmpty then String.ofList (block lines)
  else reply ++ "\n\n" ++ String.ofList (block lines)

/-- The text of a reply and its hint, if there is one that is not blank. What stands after the
closing mark is kept with the text; a mark that is not closed runs to the end. -/
def split (reply : String) : String × Option String :=
  match cut startMark reply.toList with
  | none => (reply, none)
  | some (before, rest) =>
    let before := trimEnd before
    let (hint, after) :=
      match cut endMark rest with
      | none => (rest, [])
      | some (hint, after) => (hint, trim after)
    let text :=
      if after.isEmpty then before
      else if before.isEmpty then after
      else before ++ '\n' :: after
    let hint := trim hint
    (String.ofList text, if hint.isEmpty then none else some (String.ofList hint))

end Hint

/-- The keys whose hints have been shown. -/
structure HintLog where
  shown : List String
  deriving DecidableEq

namespace HintLog

def empty : HintLog := ⟨[]⟩

def isShown (log : HintLog) (key : String) : Bool := log.shown.contains key

/-- Adds the hint of `key` to a reply, unless it has no lines or has been shown before. -/
def attach (log : HintLog) (key reply : String) (lines : List String) : String × HintLog :=
  if lines.isEmpty || log.isShown key then (reply, log)
  else (Hint.join reply lines, ⟨key :: log.shown⟩)

end HintLog

end GitTutor
