import Conformance.Text.Numeral

/-!
# Dates and times

Days of the Gregorian calendar from the year 1 to 9999, and times of day with an optional offset
from universal time. A date or time outside the calendar is refused with its first bad field.
-/
namespace Conformance

/-- The first field that leaves the calendar. -/
inductive CalendarError where
  | year (year : Nat)
  | month
  | day
  | hour
  | minute
  | second
  /-- An offset from universal time of a day or more, in minutes. -/
  | offset (minutes : Int)
deriving DecidableEq

structure Date where
  year : Nat
  month : Nat
  day : Nat
deriving DecidableEq

namespace Date

def isLeapYear (year : Nat) : Bool := year % 4 = 0 && (year % 100 != 0 || year % 400 = 0)

def daysIn (year month : Nat) : Nat :=
  if month = 2 then (if isLeapYear year then 29 else 28)
  else if month = 4 ∨ month = 6 ∨ month = 9 ∨ month = 11 then 30
  else 31

/-- A date of the calendar. -/
def ofFields (year month day : Nat) : Except CalendarError Date :=
  if year = 0 ∨ 9999 < year then .error (.year year)
  else if month = 0 ∨ 12 < month then .error .month
  else if day = 0 ∨ daysIn year month < day then .error .day
  else .ok ⟨year, month, day⟩

/-- A date written as year, month and day between hyphens. -/
def parse? (t : Text) : Option Date :=
  match Text.splitOn '-' t with
  | [year, month, day] =>
    if (year ++ month ++ day).all CodePoint.isDigit ∧ year.length = 4 ∧ month.length = 2
        ∧ day.length = 2 then
      (ofFields (Text.natValue year) (Text.natValue month) (Text.natValue day)).toOption
    else none
  | _ => none

def description (d : Date) : Text :=
  "datetime.date(" ++ Text.ofNat d.year ++ ", " ++ Text.ofNat d.month ++ ", "
    ++ Text.ofNat d.day ++ ")"

end Date

/-- A date with a time of day. The offset from universal time is in minutes. -/
structure Moment where
  date : Date
  hour : Nat
  minute : Nat
  second : Nat
  microsecond : Nat
  offset : Option Int
deriving DecidableEq

namespace Moment

/-- A span of minutes, given as whole days and the seconds left over. -/
def describeSpan (minutes : Int) : Text :=
  let days := (minutes * 60).fdiv 86400
  let seconds := (minutes * 60).fmod 86400
  let parts : List Text :=
    (if days = 0 then [] else ["days=" ++ Text.ofInt days])
      ++ (if seconds = 0 then [] else ["seconds=" ++ Text.ofInt seconds])
  let inside : Text := if parts.isEmpty then "0" else Text.join ", " parts
  "datetime.timedelta(" ++ inside ++ ")"

/-- A moment of the calendar. The offset is looked at first. -/
def ofFields (year month day hour minute second microsecond : Nat) (offset : Option Int) :
    Except CalendarError Moment := do
  match offset with
  | some minutes => if minutes ≤ -1440 ∨ 1440 ≤ minutes then throw (.offset minutes)
  | none => pure ()
  let date ← Date.ofFields year month day
  if 23 < hour then throw .hour
  if 59 < minute then throw .minute
  if 59 < second then throw .second
  pure ⟨date, hour, minute, second, microsecond, offset⟩

/-- Seconds and microseconds are left out when they and all that follows are zero. -/
def description (m : Moment) : Text :=
  let fields := [m.date.year, m.date.month, m.date.day, m.hour, m.minute]
    ++ (if m.microsecond = 0 then (if m.second = 0 then [] else [m.second])
        else [m.second, m.microsecond])
  let zone : List Text := match m.offset with
    | none => []
    | some minutes =>
      if minutes = 0 then ["tzinfo=datetime.timezone.utc"]
      else ["tzinfo=datetime.timezone(" ++ describeSpan minutes ++ ")"]
  "datetime.datetime(" ++ Text.join ", " (fields.map Text.ofNat ++ zone) ++ ")"

end Moment

namespace CalendarError

def message : CalendarError → Text
  | .year value => "year " ++ Text.ofNat value ++ " is out of range"
  | .month => "month must be in 1..12"
  | .day => "day is out of range for month"
  | .hour => "hour must be in 0..23"
  | .minute => "minute must be in 0..59"
  | .second => "second must be in 0..59"
  | .offset minutes =>
    "offset must be a timedelta strictly between -timedelta(hours=24) and timedelta(hours=24), not "
      ++ Moment.describeSpan minutes ++ "."

end CalendarError
end Conformance
