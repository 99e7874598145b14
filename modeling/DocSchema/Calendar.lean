import DocSchema.Duration
import DocSchema.Number.Shortest

/-!
# DocSchema.Calendar

Points in time as milliseconds since the first of January 1970 in UTC, taken apart into the fields
of the Gregorian calendar, and the two written forms of a point in time.

Days are counted from the first of March of the year 0, so that the leap day ends its year and
every group of 400 years has the same 146097 days.
-/

namespace DocSchema.Calendar

/-- A point in time in the fields of the calendar, in UTC. -/
structure Moment where
  year : Int
  month : Nat
  day : Nat
  hour : Nat
  minute : Nat
  second : Nat
  milli : Nat
deriving DecidableEq, Repr

/-- The year, month and day that lie `days` after the first of January 1970. -/
def dateOfDays (days : Int) : Int × Nat × Nat :=
  let shifted := days + 719468
  let era := shifted / 146097
  let dayOfEra := (shifted % 146097).toNat
  let yearOfEra := (dayOfEra - dayOfEra / 1460 + dayOfEra / 36524 - dayOfEra / 146096) / 365
  let dayOfYear := dayOfEra - (365 * yearOfEra + yearOfEra / 4 - yearOfEra / 100)
  let monthFromMarch := (5 * dayOfYear + 2) / 153
  let day := dayOfYear - (153 * monthFromMarch + 2) / 5 + 1
  let month := if monthFromMarch < 10 then monthFromMarch + 3 else monthFromMarch - 9
  let year := era * 400 + yearOfEra + (if month ≤ 2 then 1 else 0)
  (year, month, day)

/-- The calendar fields of a count of milliseconds. -/
def Moment.ofMillis (ms : Int) : Moment :=
  let (year, month, day) := dateOfDays (ms / 86400000)
  let rest := (ms % 86400000).toNat
  { year, month, day
    hour := rest / 3600000
    minute := rest / 60000 % 60
    second := rest / 1000 % 60
    milli := rest % 1000 }

example : Moment.ofMillis 0 = ⟨1970, 1, 1, 0, 0, 0, 0⟩ := by decide
example : Moment.ofMillis (-1) = ⟨1969, 12, 31, 23, 59, 59, 999⟩ := by decide
example : Moment.ofMillis 951782400000 = ⟨2000, 2, 29, 0, 0, 0, 0⟩ := by decide

open Duration (paddedDigits dropTrailingZeros)

/-- A year of at least four digits: years above 9999 have a `+`, years before 0 a `-`. -/
def yearDigits (year : Int) : List Char :=
  let digits := paddedDigits 4 year.natAbs
  if year < 0 then '-' :: digits else if 9999 < year then '+' :: digits else digits

/-- `year-month-day`. -/
def dateDigits (m : Moment) : List Char :=
  yearDigits m.year ++ '-' :: paddedDigits 2 m.month ++ '-' :: paddedDigits 2 m.day

/-- `:minute:second`. -/
def minuteDigits (m : Moment) : List Char :=
  ':' :: paddedDigits 2 m.minute ++ ':' :: paddedDigits 2 m.second

/-- The form inside documents: a blank between date and time, the hour as short as it goes, at
least one place after the second, and the offset from UTC. Beyond the years ±999999 the bare count
of milliseconds stands instead. -/
def plainText (ms : Int) : String :=
  let m := Moment.ofMillis ms
  if m.year.natAbs ≤ 999999 then
    let fraction := match dropTrailingZeros (paddedDigits 3 m.milli) with
      | [] => ['0']
      | digits => digits
    .ofList (dateDigits m ++ ' ' :: Nat.toDigits 10 m.hour ++ minuteDigits m ++ '.' :: fraction) ++
      " +00:00:00"
  else .ofList (Number.signedDigits ms)

/-- The form inside reports: RFC 3339 with `Z`, and three places after the second unless they are
all zero. -/
def stampText (ms : Int) : String :=
  let m := Moment.ofMillis ms
  let fraction := if m.milli = 0 then [] else '.' :: paddedDigits 3 m.milli
  .ofList (dateDigits m ++ 'T' :: paddedDigits 2 m.hour ++ minuteDigits m ++ fraction ++ ['Z'])

end DocSchema.Calendar
