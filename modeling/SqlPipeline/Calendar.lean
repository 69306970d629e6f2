/-
  SqlPipeline/Calendar.lean
  =========================
  **Days and moments of the Gregorian calendar.**

  A day is a year, a month and a day of the month; a moment adds the time of day to
  the microsecond and, when known, the distance from universal time in seconds.
-/
import SqlPipeline.Decimal.Notation

namespace SqlPipeline

open Decimal

structure Date where
  year : Nat
  month : Nat
  day : Nat
deriving Repr, DecidableEq

/-- A point in time; without an offset it is a reading of some local clock. -/
structure Moment where
  date : Date
  hour : Nat
  minute : Nat
  second : Nat
  microsecond : Nat
  offset : Option Int        -- seconds east of universal time
deriving Repr, DecidableEq

/-- Which part of a day or moment is out of range. -/
inductive CalendarError where
  | year (n : Nat)
  | month
  | day
  | hour
  | minute
  | second
deriving Repr, DecidableEq

def CalendarError.message : CalendarError → String
  | .year n => s!"year {n} is out of range"
  | .month => "month must be in 1..12"
  | .day => "day is out of range for month"
  | .hour => "hour must be in 0..23"
  | .minute => "minute must be in 0..59"
  | .second => "second must be in 0..59"

namespace Date

def isLeapYear (year : Nat) : Bool :=
  year % 4 == 0 && (year % 100 != 0 || year % 400 == 0)

def daysInMonth (year month : Nat) : Nat :=
  if month == 2 then if isLeapYear year then 29 else 28
  else if month == 4 || month == 6 || month == 9 || month == 11 then 30
  else 31

def ofNumbers (year month day : Nat) : Except CalendarError Date :=
  if year < 1 || year > 9999 then .error (.year year)
  else if month < 1 || month > 12 then .error .month
  else if day < 1 || day > daysInMonth year month then .error .day
  else .ok ⟨year, month, day⟩

def daysBeforeYear (year : Nat) : Nat :=
  let y := year - 1
  y * 365 + y / 4 - y / 100 + y / 400

/-- The day's place in its year, the first of January being day one. -/
def dayOfYear (d : Date) : Nat :=
  ((List.range (d.month - 1)).map fun m => daysInMonth d.year (m + 1)).foldl (· + ·) 0 + d.day

/-- The number of days since the day before the first of January of year one. -/
def ordinal (d : Date) : Nat :=
  daysBeforeYear d.year + d.dayOfYear

def weekday (d : Date) : Nat :=
  (d.ordinal + 6) % 7

def next (d : Date) : Date :=
  if d.day < daysInMonth d.year d.month then { d with day := d.day + 1 }
  else if d.month < 12 then { d with month := d.month + 1, day := 1 }
  else ⟨d.year + 1, 1, 1⟩

def text (d : Date) : String :=
  zeroPadded 4 (digitText d.year) ++ "-" ++ zeroPadded 2 (digitText d.month) ++ "-"
    ++ zeroPadded 2 (digitText d.day)

def shown (d : Date) : String :=
  s!"datetime.date({d.year}, {d.month}, {d.day})"

end Date

namespace Moment

def ofNumbers (date : Date) (hour minute second microsecond : Nat) (offset : Option Int) :
    Except CalendarError Moment :=
  if hour > 23 then .error .hour
  else if minute > 59 then .error .minute
  else if second > 59 then .error .second
  else .ok ⟨date, hour, minute, second, microsecond, offset⟩

/-- An offset as hours and minutes, with seconds when there are any. -/
def offsetText (offset : Int) : String :=
  let n := offset.natAbs
  let two (k : Nat) := zeroPadded 2 (digitText k)
  (if offset < 0 then "-" else "+") ++ two (n / 3600) ++ ":" ++ two (n / 60 % 60)
    ++ (if n % 60 == 0 then "" else ":" ++ two (n % 60))

/-- The time of day, with six digits of a second when it is not a whole one. -/
def timeText (m : Moment) : String :=
  let two (k : Nat) := zeroPadded 2 (digitText k)
  two m.hour ++ ":" ++ two m.minute ++ ":" ++ two m.second
    ++ (if m.microsecond == 0 then "" else "." ++ zeroPadded 6 (digitText m.microsecond))

/-- Day and time with `sep` between, and the offset when there is one. -/
def isoText (sep : String) (m : Moment) : String :=
  m.date.text ++ sep ++ m.timeText ++ (m.offset.map offsetText).getD ""

def text (m : Moment) : String :=
  m.isoText " "

def shownOffset (offset : Int) : String :=
  if offset == 0 then "datetime.timezone.utc"
  else
    let days := Int.fdiv offset 86400
    let seconds := Int.fmod offset 86400
    let parts := (if days == 0 then [] else [s!"days={days}"])
      ++ (if seconds == 0 then [] else [s!"seconds={seconds}"])
    "datetime.timezone(datetime.timedelta(" ++ ", ".intercalate parts ++ "))"

/-- The moment as a call that would build it; seconds and below are left out when zero. -/
def shown (m : Moment) : String :=
  let small :=
    if m.microsecond != 0 then [m.second, m.microsecond]
    else if m.second != 0 then [m.second]
    else []
  let numbers := [m.date.year, m.date.month, m.date.day, m.hour, m.minute] ++ small
  "datetime.datetime(" ++ ", ".intercalate (numbers.map digitText)
    ++ (match m.offset with | none => "" | some o => ", tzinfo=" ++ shownOffset o) ++ ")"

/-- Microseconds since the day before the first of January of year one, in universal time
    when the offset is known. -/
def instant (m : Moment) : Int :=
  let seconds : Int := ((m.date.ordinal * 24 + m.hour) * 60 + m.minute) * 60 + m.second
  (seconds - m.offset.getD 0) * 1000000 + m.microsecond

/-! ### Written by a pattern -/

def monthNames : List String :=
  ["January", "February", "March", "April", "May", "June", "July", "August", "September", "October",
    "November", "December"]

def dayNames : List String :=
  ["Monday", "Tuesday", "Wednesday", "Thursday", "Friday", "Saturday", "Sunday"]

/-- The number of the week in the year; weeks start on a day of the week, Monday being zero,
    and the days before the first such day are in week zero. -/
def weekOfYear (d : Date) (start : Nat) : Nat :=
  let since := (d.weekday + 7 - start) % 7
  (d.dayOfYear + 6 - since) / 7

def directive (m : Moment) (c : Char) : String :=
  let two (k : Nat) := zeroPadded 2 (digitText k)
  let hour12 := if m.hour % 12 == 0 then 12 else m.hour % 12
  let monthName := (monthNames[m.date.month - 1]?).getD ""
  let dayName := (dayNames[m.date.weekday]?).getD ""
  match c with
  | 'Y' => digitText m.date.year
  | 'y' => two (m.date.year % 100)
  | 'C' => two (m.date.year / 100)
  | 'm' => two m.date.month
  | 'd' => two m.date.day
  | 'e' => (if m.date.day < 10 then " " else "") ++ digitText m.date.day
  | 'H' => two m.hour
  | 'I' => two hour12
  | 'M' => two m.minute
  | 'S' => two m.second
  | 'f' => zeroPadded 6 (digitText m.microsecond)
  | 'p' => if m.hour < 12 then "AM" else "PM"
  | 'j' => zeroPadded 3 (digitText m.date.dayOfYear)
  | 'B' => monthName
  | 'b' => .ofList (monthName.toList.take 3)
  | 'h' => .ofList (monthName.toList.take 3)
  | 'A' => dayName
  | 'a' => .ofList (dayName.toList.take 3)
  | 'w' => digitText ((m.date.weekday + 1) % 7)
  | 'u' => digitText (m.date.weekday + 1)
  | 'U' => two (weekOfYear m.date 6)
  | 'W' => two (weekOfYear m.date 0)
  | 'F' => m.date.text
  | 'T' => two m.hour ++ ":" ++ two m.minute ++ ":" ++ two m.second
  | 'R' => two m.hour ++ ":" ++ two m.minute
  | 'D' => two m.date.month ++ "/" ++ two m.date.day ++ "/" ++ two (m.date.year % 100)
  | 'x' => two m.date.month ++ "/" ++ two m.date.day ++ "/" ++ two (m.date.year % 100)
  | 'X' => two m.hour ++ ":" ++ two m.minute ++ ":" ++ two m.second
  | 'z' => (m.offset.map fun o => (offsetText o).replace ":" "").getD ""
  | 'Z' => (m.offset.map fun o => if o == 0 then "UTC" else "UTC" ++ offsetText o).getD ""
  | 'n' => "
"
  | 't' => "	"
  | '%' => "%"
  | c => .ofList ['%', c]

def strftime (m : Moment) (pattern : String) : String :=
  go pattern.toList
where
  go : List Char → String
    | [] => ""
    | '%' :: c :: rest => directive m c ++ go rest
    | c :: rest => String.ofList [c] ++ go rest

end Moment

end SqlPipeline
