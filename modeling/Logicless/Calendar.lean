import Logicless.Text.Quoted

/-!
Dates and points in time of the Gregorian calendar, with their written forms. A point in time may
name the zone that its clock shows.
-/

set_option autoImplicit false

namespace Logicless.Calendar

structure Date where
  year : Nat
  month : Nat
  day : Nat
deriving Repr, DecidableEq

/-- The difference of a clock to universal time, and the zone as it was written. -/
structure Zone where
  minutes : Int
  name : String
deriving Repr, DecidableEq

structure Moment where
  date : Date
  hour : Nat
  minute : Nat
  second : Nat
  microsecond : Nat
  zone : Option Zone
deriving Repr, DecidableEq

inductive CalendarError where
  | year (value : Nat)
  | month
  | day
  | hour
  | minute
  | second
  /-- A zone a day or more away from universal time. -/
  | zone (minutes : Int)
  /-- A second beyond the last day of the calendar. -/
  | overflow
deriving Repr, DecidableEq

def isLeap (year : Nat) : Bool := year % 4 = 0 && (year % 100 ≠ 0 || year % 400 = 0)

def daysIn (year month : Nat) : Nat :=
  if month = 2 then (if isLeap year then 29 else 28)
  else if month = 4 ∨ month = 6 ∨ month = 9 ∨ month = 11 then 30
  else 31

/-- A number in at least `width` digits. -/
def padded (width n : Nat) : String :=
  let digits := Nat.toDigits 10 n
  String.ofList (List.replicate (width - digits.length) '0' ++ digits)

namespace Date

/-- The date of a year, a month and a day, each looked at in that order. -/
def ofFields (year month day : Nat) : Except CalendarError Date :=
  if year = 0 ∨ year > 9999 then .error (.year year)
  else if month = 0 ∨ month > 12 then .error .month
  else if day = 0 ∨ day > daysIn year month then .error .day
  else .ok ⟨year, month, day⟩

def iso (date : Date) : String :=
  padded 4 date.year ++ "-" ++ padded 2 date.month ++ "-" ++ padded 2 date.day

/-- The number of days before a date, counted from the first day of the year one. -/
def dayNumber (date : Date) : Nat :=
  let years := date.year - 1
  let months := (List.range (date.month - 1)).map fun month => daysIn date.year (month + 1)
  365 * years + years / 4 - years / 100 + years / 400 + months.foldl (· + ·) 0 + (date.day - 1)

/-- The day after; the calendar ends with the year 9999. -/
def next (date : Date) : Except CalendarError Date :=
  if date.day < daysIn date.year date.month then .ok { date with day := date.day + 1 }
  else if date.month < 12 then .ok ⟨date.year, date.month + 1, 1⟩
  else if date.year < 9999 then .ok ⟨date.year + 1, 1, 1⟩
  else .error .overflow

def describe (date : Date) : String :=
  "datetime.date(" ++ toString date.year ++ ", " ++ toString date.month ++ ", " ++
    toString date.day ++ ")"

end Date

namespace Zone

/-- A zone less than a day away from universal time. -/
def ofMinutes (minutes : Int) (name : String) : Except CalendarError Zone :=
  if minutes.natAbs < 24 * 60 then .ok ⟨minutes, name⟩ else .error (.zone minutes)

def iso (zone : Zone) : String :=
  let minutes := zone.minutes.natAbs
  (if zone.minutes < 0 then "-" else "+") ++ padded 2 (minutes / 60) ++ ":" ++
    padded 2 (minutes % 60)

end Zone

/-- A span of minutes as whole days, which may be negative, and the seconds of a last day. -/
def describeSpan (minutes : Int) : String :=
  let days := minutes / (24 * 60)
  let seconds := minutes % (24 * 60) * 60
  let parts := (if days ≠ 0 then ["days=" ++ toString days] else []) ++
    (if seconds ≠ 0 then ["seconds=" ++ toString seconds] else [])
  "datetime.timedelta(" ++ (if parts.isEmpty then "0" else ", ".intercalate parts) ++ ")"

namespace Moment

def ofFields (year month day hour minute second microsecond : Nat) (zone : Option Zone) :
    Except CalendarError Moment := do
  let date ← Date.ofFields year month day
  if hour > 23 then .error .hour
  else if minute > 59 then .error .minute
  else if second > 59 then .error .second
  else return ⟨date, hour, minute, second, microsecond, zone⟩

def nextSecond (moment : Moment) : Except CalendarError Moment :=
  if moment.second < 59 then .ok { moment with second := moment.second + 1, microsecond := 0 }
  else if moment.minute < 59 then
    .ok { moment with minute := moment.minute + 1, second := 0, microsecond := 0 }
  else if moment.hour < 23 then
    .ok { moment with hour := moment.hour + 1, minute := 0, second := 0, microsecond := 0 }
  else do
    let date ← moment.date.next
    return ⟨date, 0, 0, 0, 0, moment.zone⟩

/-- Date and clock with `between` between them; a fraction of a second has six digits. -/
def render (between : String) (moment : Moment) : String :=
  moment.date.iso ++ between ++ padded 2 moment.hour ++ ":" ++ padded 2 moment.minute ++ ":" ++
    padded 2 moment.second ++
    (if moment.microsecond = 0 then "" else "." ++ padded 6 moment.microsecond) ++
    (match moment.zone with
      | some zone => zone.iso
      | none => "")

def iso (moment : Moment) : String := moment.render "T"

/-- The minutes from the start of the calendar, by the clock of the moment's own zone. -/
def clockMinutes (moment : Moment) : Nat :=
  (moment.date.dayNumber * 24 + moment.hour) * 60 + moment.minute

/-- Whether two moments are the same: both without a zone, or both with one and at the same
universal time. -/
def same (first second : Moment) : Bool :=
  first.second == second.second && first.microsecond == second.microsecond &&
    match first.zone, second.zone with
    | none, none => first.clockMinutes == second.clockMinutes
    | some zone, some other =>
      (first.clockMinutes : Int) - zone.minutes == second.clockMinutes - other.minutes
    | _, _ => false

def describe (moment : Moment) : String :=
  let date := [moment.date.year, moment.date.month, moment.date.day, moment.hour, moment.minute]
  let seconds := if moment.second = 0 ∧ moment.microsecond = 0 then [] else [moment.second]
  let fraction := if moment.microsecond = 0 then [] else [moment.microsecond]
  let zone := match moment.zone with
    | some zone => ", tzinfo=datetime.timezone(" ++ describeSpan zone.minutes ++ ", " ++
        Text.quoted zone.name ++ ")"
    | none => ""
  let numbers := (date ++ seconds ++ fraction).map toString
  "datetime.datetime(" ++ ", ".intercalate numbers ++ zone ++ ")"

end Moment

def CalendarError.message : CalendarError → String
  | .year value => "year " ++ toString value ++ " is out of range"
  | .month => "month must be in 1..12"
  | .day => "day is out of range for month"
  | .hour => "hour must be in 0..23"
  | .minute => "minute must be in 0..59"
  | .second => "second must be in 0..59"
  | .zone minutes =>
    "offset must be a timedelta strictly between -timedelta(hours=24) and " ++
      "timedelta(hours=24), not " ++ describeSpan minutes ++ "."
  | .overflow => "date value out of range"

end Logicless.Calendar
