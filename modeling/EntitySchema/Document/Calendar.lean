import EntitySchema.Text.Lines

/-!
# Dates and times

Calendar dates and times of day as documents write them. `Date.check` and `DateTime.check` refuse
parts that name no day or time; `CalendarFault.message` words the refusal.
-/

namespace EntitySchema.Document

/-- A day of the Gregorian calendar. -/
structure Date where
  year : Nat
  month : Nat
  day : Nat
deriving DecidableEq

/-- A day and a time, with the distance from universal time in seconds where it is known. -/
structure DateTime where
  date : Date
  hour : Nat
  minute : Nat
  second : Nat
  microsecond : Nat
  offset : Option Int
deriving DecidableEq

/-- Why parts name no day or time. -/
inductive CalendarFault where
  | year (value : Nat)
  | month
  | day
  | hour
  | minute
  | second
  | offset (seconds : Int)
deriving DecidableEq

def isLeapYear (year : Nat) : Bool := year % 4 == 0 && (year % 100 != 0 || year % 400 == 0)

def daysInMonth (year month : Nat) : Nat :=
  if month = 2 then if isLeapYear year then 29 else 28
  else if month = 4 ∨ month = 6 ∨ month = 9 ∨ month = 11 then 30
  else 31

/-- A number of seconds as whole days and the seconds left over, which are never negative. -/
def splitDays (seconds : Int) : Int × Int := (seconds / 86400, seconds % 86400)

/-- A span of time as its parts that are not zero. -/
def spanText (seconds : Int) : String :=
  let (days, rest) := splitDays seconds
  let parts := (if days = 0 then [] else [s!"days={days}"]) ++
    (if rest = 0 then [] else [s!"seconds={rest}"])
  "datetime.timedelta(" ++ (if parts.isEmpty then "0" else Text.joined ", " parts) ++ ")"

/-- The wording of a refused date or time. -/
def CalendarFault.message : CalendarFault → String
  | .year value => s!"year {value} is out of range"
  | .month => "month must be in 1..12"
  | .day => "day is out of range for month"
  | .hour => "hour must be in 0..23"
  | .minute => "minute must be in 0..59"
  | .second => "second must be in 0..59"
  | .offset seconds =>
    "offset must be a timedelta strictly between -timedelta(hours=24) and timedelta(hours=24), not "
      ++ spanText seconds ++ "."

/-- The date, if its parts name a day. -/
def Date.check (date : Date) : Except CalendarFault Date :=
  if date.year < 1 ∨ 9999 < date.year then .error (.year date.year)
  else if date.month < 1 ∨ 12 < date.month then .error .month
  else if date.day < 1 ∨ daysInMonth date.year date.month < date.day then .error .day
  else .ok date

/-- The date and time, if its parts name a day and a time; the offset is looked at first. -/
def DateTime.check (time : DateTime) : Except CalendarFault DateTime := do
  if let some seconds := time.offset then
    if 86400 ≤ seconds.natAbs then throw (.offset seconds)
  let _ ← time.date.check
  if 23 < time.hour then throw .hour
  if 59 < time.minute then throw .minute
  if 59 < time.second then throw .second
  return time

/-- The number of a date when all days from the first one of year 1 on are counted. -/
def Date.dayNumber (date : Date) : Nat :=
  let before := date.year - 1
  let months := (List.range (date.month - 1)).map fun month => daysInMonth date.year (month + 1)
  365 * before + before / 4 - before / 100 + before / 400 + months.foldl (· + ·) 0 + date.day

/-- The microseconds up to a moment, if the distance from universal time is known. -/
def DateTime.moment? (time : DateTime) : Option Int :=
  time.offset.map fun offset =>
    let seconds : Int :=
      (time.date.dayNumber * 24 + time.hour) * 3600 + time.minute * 60 + time.second
    (seconds - offset) * 1000000 + time.microsecond

/-- Whether two times are the same: as moments where both are known, else in all their parts. -/
def DateTime.sameMoment (a b : DateTime) : Bool :=
  match a.moment?, b.moment? with
  | some x, some y => x == y
  | _, _ => a == b

def zeroPadded (width n : Nat) : String :=
  let digits := toString n
  String.ofList (List.replicate (width - digits.length) '0') ++ digits

/-- `2020-01-02`. -/
def Date.text (date : Date) : String :=
  zeroPadded 4 date.year ++ "-" ++ zeroPadded 2 date.month ++ "-" ++ zeroPadded 2 date.day

/-- `+01:00`, with seconds only where there are some. -/
def offsetText (seconds : Int) : String :=
  let n := seconds.natAbs
  (if seconds < 0 then "-" else "+") ++ zeroPadded 2 (n / 3600) ++ ":" ++ zeroPadded 2 (n / 60 % 60)
    ++ (if n % 60 = 0 then "" else ":" ++ zeroPadded 2 (n % 60))

/-- The time of day, with a fraction of six digits if it has one. -/
def DateTime.clockText (time : DateTime) : String :=
  zeroPadded 2 time.hour ++ ":" ++ zeroPadded 2 time.minute ++ ":" ++ zeroPadded 2 time.second
    ++ (if time.microsecond = 0 then "" else "." ++ zeroPadded 6 time.microsecond)

/-- `2020-01-02 03:04:05`, with the offset if it has one. -/
def DateTime.text (time : DateTime) (separator : String) : String :=
  time.date.text ++ separator ++ time.clockText ++ (time.offset.map offsetText).getD ""

/-- The time in the form for interchange: `T` before the time of day, and `Z` for universal time. -/
def DateTime.interchangeText (time : DateTime) : String :=
  if time.offset = some 0 then time.date.text ++ "T" ++ time.clockText ++ "Z" else time.text "T"

def Date.expression (date : Date) : String :=
  s!"datetime.date({date.year}, {date.month}, {date.day})"

/-- The time zone of an offset as an expression that builds it. -/
def zoneExpression (seconds : Int) : String :=
  if seconds = 0 then "datetime.timezone.utc" else "datetime.timezone(" ++ spanText seconds ++ ")"

/-- The date and time as an expression that builds it; seconds and microseconds of zero at the end
are left out. -/
def DateTime.expression (time : DateTime) : String :=
  let d := time.date
  let tail := if time.microsecond ≠ 0 then [time.second, time.microsecond]
    else if time.second ≠ 0 then [time.second] else []
  let numbers := [d.year, d.month, d.day, time.hour, time.minute] ++ tail
  let zone := match time.offset with
    | some seconds => ", tzinfo=" ++ zoneExpression seconds
    | none => ""
  "datetime.datetime(" ++ Text.joined ", " (numbers.map toString) ++ zone ++ ")"

end EntitySchema.Document
