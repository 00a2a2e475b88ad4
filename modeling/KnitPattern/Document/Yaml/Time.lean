/-
  Dates and moments in YAML files: `2001-12-14`, or a date with a time after the letter T or
  blanks, perhaps with a fraction of a second, and with a Z or how far the clock is off.
-/
import KnitPattern.Document.Basic
import KnitPattern.Document.Yaml.Character
import KnitPattern.Numeral

namespace KnitPattern.Yaml

open Text

/-- How far a clock is ahead of universal time, as written: by hours and minutes. -/
structure WrittenOffset where
  behind : Bool
  hours : Nat
  minutes : Nat

/-- How many minutes a clock is ahead. -/
def WrittenOffset.total (o : WrittenOffset) : Int :=
  let n : Int := (o.hours * 60 + o.minutes : Nat)
  if o.behind then -n else n

/-- A time of day as written. -/
structure WrittenTime where
  hour : Nat
  minute : Nat
  second : Nat
  fraction : List Char
  offset : Option WrittenOffset

/-- A date as written, with a time or without. -/
structure WrittenDate where
  year : Nat
  month : Nat
  day : Nat
  /-- Whether the month and the day have two digits. -/
  full : Bool
  time : Option WrittenTime

namespace WrittenDate

/-! ## Reading -/

/-- So many digits. -/
def digits : (count : Nat) → Scan (List Char)
  | 0 => pure []
  | n + 1 => do
    let c ← Scan.char isDecimal
    return c :: (← digits n)

/-- A number of so many digits. -/
def number (count : Nat) : Scan Nat := do
  return Numeral.value (← digits count)

/-- A number of one or two digits, and whether it has two. -/
def shortNumber : Scan (Nat × Bool) :=
  (do return (← number 2, true)) <|> (do return (← number 1, false))

/-- The given character. -/
def mark (c : Char) : Scan Unit := do
  let _ ← Scan.char (· == c)

def isSpace (c : Char) : Bool :=
  c == ' ' || c == '\t'

/-- What stands between a date and a time. -/
def separation : Scan Unit := do
  (do let _ ← Scan.char fun c => c == 'T' || c == 't') <|> (do let _ ← Scan.run1 isSpace)

/-- The digits after a point, if there is a point. -/
def fraction : Scan (List Char) :=
  (do mark '.'; Scan.run isDecimal) <|> pure []

/-- A Z, or a sign and how far the clock is off. -/
def offset : Scan WrittenOffset :=
  (do mark 'Z'; return ⟨false, 0, 0⟩) <|>
  (do
    let sign ← Scan.char fun c => c == '+' || c == '-'
    let (hours, _) ← shortNumber
    let minutes ← (do mark ':'; number 2) <|> pure 0
    return ⟨sign == '-', hours, minutes⟩)

/-- A time of day. -/
def timeOfDay : Scan WrittenTime := do
  let (hour, _) ← shortNumber
  mark ':'
  let minute ← number 2
  mark ':'
  let second ← number 2
  let fraction ← fraction
  let offset ← (do let _ ← Scan.run isSpace; some <$> offset) <|> pure none
  return ⟨hour, minute, second, fraction, offset⟩

/-- A date, with a time or without. -/
def scan : Scan WrittenDate := do
  let year ← number 4
  mark '-'
  let (month, fullMonth) ← shortNumber
  mark '-'
  let (day, fullDay) ← shortNumber
  let time ← (do separation; some <$> timeOfDay) <|> pure none
  return ⟨year, month, day, fullMonth && fullDay, time⟩

/-- The date that a whole text is. -/
def ofText? (s : List Char) : Option WrittenDate :=
  Scan.whole scan s

/-! ## Values -/

/-- The microseconds of the digits after a point, of which the first six count. -/
def microseconds (fraction : List Char) : Nat :=
  Numeral.value ((fraction ++ List.replicate 6 '0').take 6)

/-- The date or moment of a written one. How far the clock is off is looked at first, then
the date and then the time. -/
def value (d : WrittenDate) : Except Calendar.Fault Scalar := do
  match d.time with
  | none => return .date (← Date.ofNumbers d.year d.month d.day)
  | some t =>
    let offset ← t.offset.mapM fun o => ClockOffset.ofMinutes o.total
    let date ← Date.ofNumbers d.year d.month d.day
    let time ← TimeOfDay.ofNumbers t.hour t.minute t.second (microseconds t.fraction)
    return .moment ⟨date, time, offset⟩

end WrittenDate

end KnitPattern.Yaml
