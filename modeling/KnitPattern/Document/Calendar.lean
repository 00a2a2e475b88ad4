/-
  Dates, and moments: a date with a time of day, which may say how far its clock is ahead of
  universal time. Both are on the Gregorian calendar of the years 1 to 9999. The documents in
  which they stand show them in two ways: alone, and by their parts inside of other documents.
-/

namespace KnitPattern

namespace Calendar

/-- Why numbers are no date or no moment. -/
inductive Fault where
  | year
  | month
  | day
  | hour
  | minute
  | second
  /-- A clock a day or more off universal time, by so many minutes. -/
  | offset (minutes : Int)
  deriving DecidableEq

/-! ## The length of months -/

def isLeap (year : Nat) : Bool :=
  year % 4 == 0 && (year % 100 != 0 || year % 400 == 0)

/-- How many days a month has. -/
def daysIn (year month : Nat) : Nat :=
  if month = 2 then (if isLeap year then 29 else 28)
  else if month ∈ [4, 6, 9, 11] then 30
  else 31

/-- How many days are before a year. -/
def daysBeforeYear (year : Nat) : Nat :=
  let y := year - 1
  y * 365 + y / 4 - y / 100 + y / 400

/-- How many days of a year are before a month. -/
def daysBeforeMonth (year month : Nat) : Nat :=
  ((List.range (month - 1)).map fun m => daysIn year (m + 1)).foldr (· + ·) 0

/-! ## What is no date -/

/-- What is wrong with the numbers of a date. -/
def dateFault? (year month day : Nat) : Option Fault :=
  if year = 0 then some .year
  else if month = 0 ∨ 12 < month then some .month
  else if day = 0 ∨ daysIn year month < day then some .day
  else none

/-- What is wrong with the numbers of a time of day. -/
def timeFault? (hour minute second : Nat) : Option Fault :=
  if 23 < hour then some .hour
  else if 59 < minute then some .minute
  else if 59 < second then some .second
  else none

/-- What is wrong with a number of minutes ahead of universal time. -/
def offsetFault? (minutes : Int) : Option Fault :=
  if minutes.natAbs < 24 * 60 then none else some (.offset minutes)

/-! ## Texts -/

/-- A number filled with zeros to a width. -/
def padded (width n : Nat) : String :=
  let digits := Nat.toDigits 10 n
  String.ofList (List.replicate (width - digits.length) '0' ++ digits)

/-- A number of minutes by its parts: days, and the seconds of the last day. -/
def minutesShown (minutes : Int) : String :=
  let days := minutes.fdiv (24 * 60)
  let seconds := 60 * minutes.fmod (24 * 60)
  let part := fun (name : String) (n : Int) => if n = 0 then [] else [s!"{name}={n}"]
  match part "days" days ++ part "seconds" seconds with
  | [] => "datetime.timedelta(0)"
  | parts => "datetime.timedelta(" ++ ", ".intercalate parts ++ ")"

def Fault.message : Fault → String
  | year => "year 0 is out of range"
  | month => "month must be in 1..12"
  | day => "day is out of range for month"
  | hour => "hour must be in 0..23"
  | minute => "minute must be in 0..59"
  | second => "second must be in 0..59"
  | offset minutes =>
    "offset must be a timedelta strictly between -timedelta(hours=24) and " ++
      s!"timedelta(hours=24), not {minutesShown minutes}."

end Calendar

open Calendar

/-- A day of the calendar. -/
structure Date where
  year : Nat
  month : Nat
  day : Nat
  valid : dateFault? year month day = none
  deriving DecidableEq

/-- A time of day, to the microsecond. -/
structure TimeOfDay where
  hour : Nat
  minute : Nat
  second : Nat
  microsecond : Nat := 0
  valid : timeFault? hour minute second = none
  deriving DecidableEq

/-- How many minutes a clock is ahead of universal time: less than a day. -/
structure ClockOffset where
  minutes : Int
  valid : offsetFault? minutes = none
  deriving DecidableEq

/-- A date and a time of day, on a clock that may be tied to universal time. -/
structure Moment where
  date : Date
  time : TimeOfDay
  offset : Option ClockOffset
  deriving DecidableEq

namespace Date

/-- The date of three numbers. -/
def ofNumbers (year month day : Nat) : Except Fault Date :=
  match h : dateFault? year month day with
  | none => .ok ⟨year, month, day, h⟩
  | some f => .error f

/-- How many days there are from the first day of the year 1 to the end of a date. -/
def ordinal (d : Date) : Nat :=
  daysBeforeYear d.year + daysBeforeMonth d.year d.month + d.day

def toText (d : Date) : String :=
  s!"{padded 4 d.year}-{padded 2 d.month}-{padded 2 d.day}"

def shown (d : Date) : String :=
  s!"datetime.date({d.year}, {d.month}, {d.day})"

end Date

namespace TimeOfDay

/-- The time of four numbers, of which the last is below a million. -/
def ofNumbers (hour minute second microsecond : Nat) : Except Fault TimeOfDay :=
  match h : timeFault? hour minute second with
  | none => .ok ⟨hour, minute, second, microsecond, h⟩
  | some f => .error f

/-- The microseconds since midnight. -/
def microseconds (t : TimeOfDay) : Nat :=
  ((t.hour * 60 + t.minute) * 60 + t.second) * 1000000 + t.microsecond

def toText (t : TimeOfDay) : String :=
  let whole := s!"{padded 2 t.hour}:{padded 2 t.minute}:{padded 2 t.second}"
  if t.microsecond = 0 then whole else s!"{whole}.{padded 6 t.microsecond}"

/-- The numbers of a time; seconds and their fractions are left out if nothing but zeros
follows. -/
def numbers (t : TimeOfDay) : List Nat :=
  [t.hour, t.minute] ++
    (if t.second = 0 ∧ t.microsecond = 0 then [] else [t.second]) ++
    (if t.microsecond = 0 then [] else [t.microsecond])

end TimeOfDay

namespace ClockOffset

def ofMinutes (minutes : Int) : Except Fault ClockOffset :=
  match h : offsetFault? minutes with
  | none => .ok ⟨minutes, h⟩
  | some f => .error f

/-- Universal time itself. -/
def universal : ClockOffset :=
  ⟨0, by decide⟩

def toText (o : ClockOffset) : String :=
  let n := o.minutes.natAbs
  let sign := if o.minutes < 0 then "-" else "+"
  s!"{sign}{padded 2 (n / 60)}:{padded 2 (n % 60)}"

def shown (o : ClockOffset) : String :=
  if o.minutes = 0 then "datetime.timezone.utc"
  else s!"datetime.timezone({minutesShown o.minutes})"

end ClockOffset

namespace Moment

/-- The microseconds that a clock shows since the year 1 began, less its offset. -/
def microseconds (m : Moment) : Int :=
  let offset : Int := match m.offset with
    | some o => o.minutes * 60000000
    | none => 0
  (m.date.ordinal * 86400000000 + m.time.microseconds : Nat) - offset

/-- Whether two moments are one. A clock that is not tied to universal time is never
compared with one that is. -/
def same (a b : Moment) : Bool :=
  a.offset.isSome == b.offset.isSome && a.microseconds == b.microseconds

def toText (m : Moment) : String :=
  s!"{m.date.toText} {m.time.toText}" ++ (m.offset.map ClockOffset.toText).getD ""

def shown (m : Moment) : String :=
  let numbers := [m.date.year, m.date.month, m.date.day] ++ m.time.numbers
  let offset := match m.offset with
    | some o => [s!"tzinfo={o.shown}"]
    | none => []
  "datetime.datetime(" ++ ", ".intercalate (numbers.map toString ++ offset) ++ ")"

end Moment

end KnitPattern
