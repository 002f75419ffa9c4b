/-!
Dates of the Gregorian calendar from seconds since 1970-01-01, in universal time.

Years run from -9999 to 9999; a moment outside the calendar is written as its number of seconds.
-/

namespace GitTutor.Calendar

structure Date where
  year : Int
  month : Nat
  day : Nat

/-- The date that lies `days` after 1970-01-01. Years start in March here, so that the leap day
is the last day of its year, and 146097 days make an era of 400 years. -/
def dateOfDays (days : Int) : Date :=
  let shifted := days + 719468
  let era := shifted.fdiv 146097
  let dayOfEra := (shifted.fmod 146097).toNat
  let yearOfEra := (dayOfEra - dayOfEra / 1460 + dayOfEra / 36524 - dayOfEra / 146096) / 365
  let dayOfYear := dayOfEra - (365 * yearOfEra + yearOfEra / 4 - yearOfEra / 100)
  let marchMonth := (5 * dayOfYear + 2) / 153
  let month := if marchMonth < 10 then marchMonth + 3 else marchMonth - 9
  let year : Int := yearOfEra + 400 * era + (if month ≤ 2 then 1 else 0)
  ⟨year, month, dayOfYear - (153 * marchMonth + 2) / 5 + 1⟩

def isLeap (year : Nat) : Bool := year % 4 = 0 && (year % 100 ≠ 0 || year % 400 = 0)

/-- How many days a month has. -/
def monthLength (year month : Nat) : Nat :=
  if month = 2 then if isLeap year then 29 else 28
  else if month ∈ [4, 6, 9, 11] then 30 else 31

/-- A number in at least `width` digits. -/
def padded (width n : Nat) : String :=
  let digits := toString n
  String.ofList (List.replicate (width - digits.length) '0') ++ digits

/-- A year in at least four characters, of which the sign is one. -/
def paddedYear (year : Int) : String :=
  if year < 0 then "-" ++ padded 3 year.natAbs else padded 4 year.natAbs

def firstSecond : Int := -377705023201
def lastSecond : Int := 253402207200

/-- A moment as in `2023-11-14 22:13:20 UTC`. -/
def render (seconds : Int) : String :=
  if firstSecond ≤ seconds ∧ seconds ≤ lastSecond then
    let date := dateOfDays (seconds.fdiv 86400)
    let time := (seconds.fmod 86400).toNat
    paddedYear date.year ++ "-" ++ padded 2 date.month ++ "-" ++ padded 2 date.day ++ " " ++
      padded 2 (time / 3600) ++ ":" ++ padded 2 (time / 60 % 60) ++ ":" ++ padded 2 (time % 60) ++
      " UTC"
  else toString seconds

end GitTutor.Calendar
