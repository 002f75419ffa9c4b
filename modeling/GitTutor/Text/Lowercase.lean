import GitTutor.Text.CaseTable

/-!
Lower case of a text.

Letters map one by one, with two exceptions. The capital I with a dot becomes an i and a
combining dot. The capital sigma at the end of a word becomes the final sigma: a cased letter
stands before it and none after it, where characters that case rules ignore do not count.
-/

namespace GitTutor.Text

def capitalSigma : Char := '\u03a3'
def smallSigma : Char := '\u03c3'
def finalSigma : Char := '\u03c2'
def capitalDottedI : Char := '\u0130'
def combiningDot : Char := '\u0307'

def isCaseIgnorable (c : Char) : Bool := inRanges ignorableRanges c.toNat

def isCased (c : Char) : Bool := inRanges casedRanges c.toNat

/-- Whether the first character that case rules do not ignore is cased. -/
def startsCased (s : List Char) : Bool :=
  match s.dropWhile isCaseIgnorable with
  | [] => false
  | c :: _ => isCased c

/-- The lower case of one letter on its own. -/
def lowerLetter (c : Char) : Char :=
  if c.toNat < 0x80 then c.toLower
  else
    match lowerRuns.find? (·.holds c.toNat) with
    | some r => Char.ofNat (c.toNat + r.offset).toNat
    | none => c

/-- Lower case of a text that follows `before`, whose characters stand in reverse. -/
def lowerAfter (before : List Char) : List Char → List Char
  | [] => []
  | c :: r =>
    let low :=
      if c = capitalSigma then
        [if startsCased before && !startsCased r then finalSigma else smallSigma]
      else if c = capitalDottedI then ['i', combiningDot]
      else [lowerLetter c]
    low ++ lowerAfter (c :: before) r

def lower (s : List Char) : List Char := lowerAfter [] s

end GitTutor.Text
