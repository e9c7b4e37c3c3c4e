/-!
Points in time, in whole seconds from the start of 1970, and how they are written. Dates follow the
Gregorian calendar, also before it was introduced; years before year 1 count down from 0.
-/

namespace Phrasebook

structure Instant where
  seconds : Int
deriving DecidableEq, Repr

structure CivilDate where
  year : Int
  month : Nat
  day : Nat
deriving DecidableEq, Repr

namespace CivilDate

/-- The date of a day, counted from the start of 1970. Years are taken to begin in March, so that
the leap day comes last, and 400 of them always have 146097 days. -/
def ofDay (day : Int) : CivilDate :=
  let shifted := day + 719468
  let era := shifted / 146097
  let dayOfEra := (shifted % 146097).toNat
  let yearOfEra := (dayOfEra - dayOfEra / 1460 + dayOfEra / 36524 - dayOfEra / 146096) / 365
  let dayOfYear := dayOfEra - (365 * yearOfEra + yearOfEra / 4 - yearOfEra / 100)
  let monthFromMarch := (5 * dayOfYear + 2) / 153
  let month := if monthFromMarch < 10 then monthFromMarch + 3 else monthFromMarch - 9
  { year := era * 400 + yearOfEra + (if month ≤ 2 then 1 else 0)
    month := month
    day := dayOfYear - (153 * monthFromMarch + 2) / 5 + 1 }

example : ofDay 0 = ⟨1970, 1, 1⟩ := by decide
example : ofDay 11016 = ⟨2000, 2, 29⟩ := by decide
example : ofDay (-719529) = ⟨-1, 12, 31⟩ := by decide

end CivilDate

namespace Instant

def secondsPerDay : Int := 86400

def date (t : Instant) : CivilDate := CivilDate.ofDay (t.seconds / secondsPerDay)

/-- Seconds since midnight. -/
def secondOfDay (t : Instant) : Nat := (t.seconds % secondsPerDay).toNat

/-- Years have four digits, and a sign before them if they are negative. -/
def inRange (t : Instant) : Bool := decide (-9999 ≤ t.date.year) && decide (t.date.year ≤ 9999)

/-- A number with zeros in front up to this width. -/
def padded (width n : Nat) : String :=
  let digits := (toString n).toList
  String.ofList (List.replicate (width - digits.length) '0' ++ digits)

def yearText (year : Int) : String := (if year < 0 then "-" else "") ++ padded 4 year.natAbs

/-- Year, month and day. -/
def dateText (t : Instant) : String :=
  yearText t.date.year ++ "-" ++ padded 2 t.date.month ++ "-" ++ padded 2 t.date.day

/-- Hour, minute and second. -/
def clock (t : Instant) : List String :=
  [t.secondOfDay / 3600, t.secondOfDay / 60 % 60, t.secondOfDay % 60].map (padded 2)

/-- The form for names of files. -/
def fileText (t : Instant) : String := t.dateText ++ "_" ++ "-".intercalate t.clock

/-- The form for data files, which has no negative years. -/
def dataText? (t : Instant) : Option String :=
  if t.date.year < 0 then none else some (t.dateText ++ "T" ++ ":".intercalate t.clock ++ "Z")

end Instant
end Phrasebook
