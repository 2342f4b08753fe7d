/-! Dates and times of day in UTC, by the Gregorian calendar extended to all years. A year is taken
to begin on the first of March, so that its leap day, if it has one, is its last day. -/

namespace SchemaClasses.Calendar

structure DateTime where
  year : Int
  month : Nat
  day : Nat
  hour : Nat
  minute : Nat
  second : Nat
deriving DecidableEq, Repr

/-- Days from the first of March of year 0 to the first of January 1970. -/
def epochDay : Int := 719468

/-- The year that begins in March, and the day of that year, of a day within a period of 400
years. The last day of the period and that of every fourth year is a leap day. -/
def yearOfEra (day : Nat) : Nat × Nat :=
  let century := min (day / 36524) 3
  let inCentury := day - century * 36524
  let quad := inCentury / 1461
  let inQuad := inCentury - quad * 1461
  let year := min (inQuad / 365) 3
  (century * 100 + quad * 4 + year, inQuad - year * 365)

/-- The month, January being 1, and the day of the month, of a day of a year from March on. The
months from March have 31 and 30 days in turn, but for July and August, and December and January. -/
def monthOfYear (day : Nat) : Nat × Nat :=
  let index := (5 * day + 2) / 153
  (if index < 10 then index + 3 else index - 9, day - (153 * index + 2) / 5 + 1)

/-- The date and time of a number of seconds from the beginning of 1970. -/
def ofUnix (seconds : Int) : DateTime :=
  let time := (seconds % 86400).toNat
  let day := seconds / 86400 + epochDay
  let (year, dayOfYear) := yearOfEra (day % 146097).toNat
  let (month, dayOfMonth) := monthOfYear dayOfYear
  { year := day / 146097 * 400 + year + (if month ≤ 2 then 1 else 0)
    month
    day := dayOfMonth
    hour := time / 3600
    minute := time / 60 % 60
    second := time % 60 }

/-- A number with zeros in front, up to a width. -/
def padded (width n : Nat) : List Char :=
  let digits := Nat.toDigits 10 n
  List.replicate (width - digits.length) '0' ++ digits

/-- Four digits; a year that needs more or lies before year 0 has a sign. -/
def yearText (year : Int) : List Char :=
  (if year < 0 then ['-'] else if 9999 < year then ['+'] else []) ++ padded 4 year.natAbs

def DateTime.text (t : DateTime) : String :=
  String.ofList (yearText t.year ++ '-' :: padded 2 t.month ++ '-' :: padded 2 t.day ++
    ' ' :: padded 2 t.hour ++ ':' :: padded 2 t.minute ++ ':' :: padded 2 t.second ++
    [' ', 'U', 'T', 'C'])

end SchemaClasses.Calendar
