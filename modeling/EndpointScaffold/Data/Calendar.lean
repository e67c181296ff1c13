import EndpointScaffold.Data.Display

/-!
# The calendar

Which days and times there are, and the order of points in time.

* `checkDate`, `checkClock`, `checkOffset` what is wrong with parts of a point in time;
* `Moment.instant` the place of a point in time on the time line.
-/

namespace EndpointScaffold.Data

/-- a part of a point in time that does not exist -/
inductive CalendarFault where
  | year (n : Nat)
  | month
  | day
  | hour
  | minute
  | second
  /-- an offset of a whole day or more, in seconds -/
  | offset (seconds : Int)
  deriving DecidableEq, Repr

def CalendarFault.message : CalendarFault → String
  | .year n => "year " ++ toString n ++ " is out of range"
  | .month => "month must be in 1..12"
  | .day => "day is out of range for month"
  | .hour => "hour must be in 0..23"
  | .minute => "minute must be in 0..59"
  | .second => "second must be in 0..59"
  | .offset seconds => "offset must be a timedelta strictly between -timedelta(hours=24) and "
      ++ "timedelta(hours=24), not " ++ spanDisplay seconds ++ "."

/-! ### Days -/

def isLeapYear (year : Nat) : Bool := year % 4 == 0 && (year % 100 != 0 || year % 400 == 0)

def daysInMonth (year month : Nat) : Nat :=
  if month == 2 then if isLeapYear year then 29 else 28
  else if [4, 6, 9, 11].contains month then 30
  else 31

/-- number of a day, counted from the first day of year 1 -/
def dayNumber (year month day : Nat) : Nat :=
  let before := year - 1
  let months := (List.range (month - 1)).foldl (fun n m => n + daysInMonth year (m + 1)) 0
  before * 365 + before / 4 - before / 100 + before / 400 + months + (day - 1)

/-! ### Checks -/

def checkDate (year month day : Nat) : Except CalendarFault Unit :=
  if year < 1 || 9999 < year then .error (.year year)
  else if month < 1 || 12 < month then .error .month
  else if day < 1 || daysInMonth year month < day then .error .day
  else .ok ()

def checkClock (hour minute second : Nat) : Except CalendarFault Unit :=
  if 23 < hour then .error .hour
  else if 59 < minute then .error .minute
  else if 59 < second then .error .second
  else .ok ()

def checkOffset (seconds : Int) : Except CalendarFault Unit :=
  if 86400 ≤ seconds.natAbs then .error (.offset seconds) else .ok ()

/-! ### Points in time -/

/-- microseconds since the start of year 1, in UTC if the offset is known -/
def Moment.instant (m : Moment) : Int :=
  let seconds : Int := dayNumber m.year m.month m.day * 86400 + m.hour * 3600 + m.minute * 60 + m.second
  (seconds - m.offset.getD 0) * 1000000 + m.micros

/-- whether two points in time are one; a time of no known offset is never one of a known offset -/
def Moment.same (a b : Moment) : Bool :=
  a.offset.isSome == b.offset.isSome && a.instant == b.instant

end EndpointScaffold.Data
