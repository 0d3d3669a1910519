/-!
# Dates and times

Dates of the years 1 to 9999 in the Gregorian calendar, and moments of the day to the microsecond,
perhaps in a time zone.  `Date.ofNumbers` and `Moment.ofNumbers` refuse numbers that name no date or
no moment, with the first fault in the order year, month, day, hour, minute, second.  Moments in
two zones are the same if they are at the same time.
-/

namespace MarkdownLint

inductive CalendarFault
  | year (year : Nat)
  | month
  | day
  | hour
  | minute
  | second
  | range
  | zone (minutes : Int)
  deriving DecidableEq

/-- How a span of minutes is shown: in whole days and the seconds beyond them. -/
def shownMinutes (minutes : Int) : String :=
  let days := minutes.fdiv 1440
  let seconds := minutes.fmod 1440 * 60
  let parts := (if days = 0 then [] else ["days=" ++ toString days])
    ++ (if seconds = 0 then [] else ["seconds=" ++ toString seconds])
  "datetime.timedelta(" ++ (if parts = [] then "0" else ", ".intercalate parts) ++ ")"

def CalendarFault.message : CalendarFault → String
  | year n => "year " ++ toString n ++ " is out of range"
  | month => "month must be in 1..12"
  | day => "day is out of range for month"
  | hour => "hour must be in 0..23"
  | minute => "minute must be in 0..59"
  | second => "second must be in 0..59"
  | range => "date value out of range"
  | zone minutes =>
    "offset must be a timedelta strictly between -timedelta(hours=24) and timedelta(hours=24), not "
      ++ shownMinutes minutes ++ "."

structure Date where
  year : Nat
  month : Nat
  day : Nat
  deriving DecidableEq

/-- A time zone: how many minutes it is ahead of universal time, and how it is written. -/
structure Zone where
  minutes : Int
  name : String
  lt_day : minutes.natAbs < 1440 := by omega
  deriving DecidableEq

structure Moment where
  date : Date
  hour : Nat
  minute : Nat
  second : Nat
  microsecond : Nat
  zone : Option Zone := none
  deriving DecidableEq

def isLeapYear (year : Nat) : Bool :=
  year % 4 = 0 && (year % 100 ≠ 0 || year % 400 = 0)

def daysInMonth (year month : Nat) : Nat :=
  if month = 2 then (if isLeapYear year then 29 else 28)
  else if month = 4 ∨ month = 6 ∨ month = 9 ∨ month = 11 then 30
  else 31

/-- The days of the years before `year`. -/
def daysBeforeYear (year : Nat) : Nat :=
  let y := year - 1
  y * 365 + y / 4 - y / 100 + y / 400

def daysBeforeMonth (year month : Nat) : Nat :=
  ((List.range (month - 1)).map fun m => daysInMonth year (m + 1)).foldr (· + ·) 0

/-- `n` as at least `width` digits. -/
def padded (width n : Nat) : String :=
  let digits := Nat.toDigits 10 n
  String.ofList (List.replicate (width - digits.length) '0' ++ digits)

namespace Date

def ofNumbers (year month day : Nat) : Except CalendarFault Date :=
  if year < 1 ∨ 9999 < year then .error (.year year)
  else if month < 1 ∨ 12 < month then .error .month
  else if day < 1 ∨ daysInMonth year month < day then .error .day
  else .ok ⟨year, month, day⟩

/-- The number of the day, counted from 1 for the first day of the year 1. -/
def dayNumber (d : Date) : Nat :=
  daysBeforeYear d.year + daysBeforeMonth d.year d.month + d.day

/-- The month and day of the `n`th day of a year, counted from 1, from month `month` on. -/
def ofDayOfYear (year : Nat) : Nat → Nat → Nat → Date
  | 0, month, n => ⟨year, month, n⟩
  | fuel + 1, month, n =>
    if n ≤ daysInMonth year month then ⟨year, month, n⟩
    else ofDayOfYear year fuel (month + 1) (n - daysInMonth year month)

/-- The date with a day number, which is in the year estimated from 365.2425 days a year or in one
next to it. -/
def ofDayNumber (n : Int) : Except CalendarFault Date :=
  let d := n.toNat
  let estimate := d * 400 / 146097 + 1
  let year := if d ≤ daysBeforeYear estimate then estimate - 1
    else if daysBeforeYear (estimate + 1) < d then estimate + 1 else estimate
  if n < 1 ∨ 9999 < year then .error .range
  else .ok (ofDayOfYear year 12 1 (d - daysBeforeYear year))

def text (d : Date) : String :=
  padded 4 d.year ++ "-" ++ padded 2 d.month ++ "-" ++ padded 2 d.day

end Date

namespace Zone

def ofMinutes (minutes : Int) (name : String) : Except CalendarFault Zone :=
  if h : minutes.natAbs < 1440 then .ok ⟨minutes, name, h⟩ else .error (.zone minutes)

def text (z : Zone) : String :=
  let n := z.minutes.natAbs
  (if z.minutes < 0 then "-" else "+") ++ padded 2 (n / 60) ++ ":" ++ padded 2 (n % 60)

end Zone

namespace Moment

def ofNumbers (year month day hour minute second microsecond : Nat) :
    Except CalendarFault Moment := do
  let date ← Date.ofNumbers year month day
  if 23 < hour then .error .hour
  else if 59 < minute then .error .minute
  else if 59 < second then .error .second
  else .ok { date, hour, minute, second, microsecond }

/-- The second of the day. -/
def secondOfDay (t : Moment) : Nat :=
  (t.hour * 60 + t.minute) * 60 + t.second

/-- The moment some seconds later, or earlier. -/
def addSeconds (t : Moment) (seconds : Int) : Except CalendarFault Moment := do
  let total := (t.secondOfDay : Int) + seconds
  let rest := (total.emod 86400).toNat
  let date ← Date.ofDayNumber (t.date.dayNumber + total.ediv 86400)
  return { t with date, hour := rest / 3600, minute := rest / 60 % 60, second := rest % 60 }

/-- The microsecond at which a moment is in universal time, with its own time taken for that. -/
def instant (t : Moment) : Int :=
  let minutes : Int := t.zone.elim 0 (·.minutes)
  ((t.date.dayNumber * 86400 + t.secondOfDay : Int) - minutes * 60) * 1000000 + t.microsecond

/-- Whether two moments are at the same time, both with a zone or both without. -/
def same (t u : Moment) : Bool :=
  t.zone.isSome = u.zone.isSome && t.instant = u.instant

/-- The date and the time of day with a separator between them, and behind them the microseconds,
unless they are zero, and the zone. -/
def text (t : Moment) (separator : String) : String :=
  t.date.text ++ separator ++ padded 2 t.hour ++ ":" ++ padded 2 t.minute ++ ":"
    ++ padded 2 t.second ++ (if t.microsecond = 0 then "" else "." ++ padded 6 t.microsecond)
    ++ t.zone.elim "" Zone.text

end Moment

end MarkdownLint
