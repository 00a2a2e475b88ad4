/-
  Numbers in texts, as free as they may be written: blanks around them, a sign, digits of any
  script. Whole numbers have a base, which a mark in front may name, and may have low lines
  between their digits; other numbers may have a point and an exponent, or may be infinite.
-/
import KnitPattern.Binary64.Basic
import KnitPattern.Numeral
import KnitPattern.Text.Quoted

namespace KnitPattern.NumberText

open Text

/-- Why a text is no whole number. -/
inductive Fault where
  | overlong (digits : Nat)
  /-- A text, given as it is shown, that is no number to a base. -/
  | malformed (base : Nat) (shown : String)
  deriving DecidableEq

/-- What is said of a text; of a long one only the beginning is shown. -/
def Fault.message : Fault → String
  | overlong digits => (Halt.numeralTooLong digits).message
  | malformed base shown =>
    s!"invalid literal for int() with base {base}: " ++ String.ofList (shown.toList.take 200)

/-- The blanks that may stand around a number: all but the separators U+001C to U+001F. -/
def isMargin (c : Char) : Bool :=
  isBlank c && !(0x1C ≤ c.toNat && c.toNat ≤ 0x1F)

/-- Whether there is a minus, and what follows the sign. -/
def unsigned : List Char → Bool × List Char
  | '+' :: cs => (false, cs)
  | '-' :: cs => (true, cs)
  | cs => (false, cs)

/-! ## Whole numbers -/

/-- The value of a digit: a decimal digit of any script, or a letter after nine. -/
def digitValue? (c : Char) : Option Nat :=
  match digit? c with
  | some d => some d
  | none =>
    let l := c.toLower
    if 'a' ≤ l ∧ l ≤ 'z' then some (l.toNat - 'a'.toNat + 10) else none

/-- Whether a character is a digit to a base. -/
def isDigitTo (base : Nat) (c : Char) : Bool :=
  (digitValue? c).any (· < base)

/-- The number that digits to a base stand for. -/
def valueTo (base : Nat) (ds : List Char) : Nat :=
  ds.foldl (fun n c => base * n + (digitValue? c).getD 0) 0

/-- The letter that names a base after a zero. -/
def baseLetter? : Nat → Option Char
  | 2 => some 'b'
  | 8 => some 'o'
  | 16 => some 'x'
  | _ => none

/-- What follows the mark that names a base, with which a low line may stand. -/
def withoutMark (base : Nat) (s : List Char) : List Char :=
  match s with
  | z :: l :: cs =>
    if digitValue? z = some 0 ∧ baseLetter? base = some l.toLower then
      match cs with
      | '_' :: ds => ds
      | _ => cs
    else s
  | _ => s

/-- The whole number to a base that a text holds, or what is wrong with the text, which is
shown as `shown`. A low line anywhere but between two digits is found before the digits are
counted, and what follows the digits after that. Only decimal digits may be too many. -/
def integer (base : Nat) (shown : String) (s : List Char) : Except Fault Int :=
  let (negative, marked) := unsigned (strip isMargin s)
  let body := withoutMark base marked
  let isPart := fun c => isDigitTo base c || c == '_'
  let parts := (body.takeWhile isPart).splitOn '_'
  let digits := parts.flatten
  if parts.any List.isEmpty then .error (.malformed base shown)
  else if base = 10 ∧ digits.length > Halt.digitLimit then .error (.overlong digits.length)
  else if body.dropWhile isPart ≠ [] then .error (.malformed base shown)
  else
    let n : Int := valueTo base digits
    .ok (if negative then -n else n)

/-- The whole number in decimal digits that a text holds. -/
def decimal (text : String) : Except Fault Int :=
  integer 10 (quote text) text.toList

/-! ## Other numbers -/

/-- The exponent that ends a number, if there is one. -/
def exponent? (s : List Char) : Option Int :=
  match s with
  | [] => some 0
  | e :: cs =>
    let (negative, ds) := unsigned cs
    if (e == 'e' || e == 'E') && ds ≠ [] && ds.all isDigit then
      let n : Int := Numeral.value ds
      some (if negative then -n else n)
    else none

/-- The number that a text without sign and blanks holds: infinity or none by name, or digits
with a point among them, and an exponent. -/
def magnitude? (s : List Char) : Option Binary64 :=
  let name := s.map Char.toLower
  if name ∈ ["inf", "infinity"].map String.toList then some (.infinite false)
  else if name = "nan".toList then some .nan
  else
    let whole := s.takeWhile isDigit
    let (fraction, rest) := match s.dropWhile isDigit with
      | '.' :: cs => (cs.takeWhile isDigit, cs.dropWhile isDigit)
      | cs => ([], cs)
    if whole ++ fraction = [] then none
    else (exponent? rest).map fun e =>
      .ofDecimal false (Numeral.value (whole ++ fraction)) (e - fraction.length)

/-- The floating-point number that a text holds. -/
def real? (s : List Char) : Option Binary64 :=
  let (negative, body) := unsigned (strip isMargin s)
  (magnitude? body).map fun x => if negative then x.negate else x

end KnitPattern.NumberText
