/-
  The values of scalars in YAML files by their kinds. Of a kind that its text has the form of, a
  scalar has a value, but for dates that are not on the calendar and numbers that are too long;
  a tag may give a text any kind, and then the text may be written more freely, or be refused.
-/
import KnitPattern.Document.Yaml.Fault
import KnitPattern.Document.Yaml.Kind
import KnitPattern.Text.SmallLetter

namespace KnitPattern.Yaml

/-! ## Numbers -/

/-- A text without low lines. -/
def withoutLowLines (s : List Char) : List Char :=
  s.filter (· != '_')

/-- The whole number to a base that a text holds. -/
def integerTo (base : Nat) (s : List Char) : Except Fault Int :=
  (NumberText.integer base (Text.quote (String.ofList s)) s).mapError .integer

/-- The whole number that a text without a sign stands for: after a zero, to the base that is
named there or else 8, or of parts to the base 60. -/
def magnitude (s : List Char) : Except Fault Int :=
  match s with
  | [] => .error .emptyNumber
  | ['0'] => .ok 0
  | '0' :: 'b' :: ds => integerTo 2 ds
  | '0' :: 'x' :: ds => integerTo 16 ds
  | '0' :: _ => integerTo 8 s
  | _ => do
    let parts ← (s.splitOn ':').mapM (integerTo 10)
    return parts.foldl (fun n part => 60 * n + part) 0

/-- The whole number that a text stands for. -/
def integerValue (text : List Char) : Except Fault Int := do
  let (negative, body) := NumberText.unsigned (withoutLowLines text)
  let n ← magnitude body
  return if negative then -n else n

/-- The floating-point number that a part of a text stands for. -/
def realPart (s : List Char) : Except Fault Binary64 :=
  match NumberText.real? s with
  | some x => .ok x
  | none => .error (.real (String.ofList s))

/-- The sum of parts to the base 60, the last part first, of which the next one counts for
`place`. -/
def sixtiethSum (place : Nat) (sum : Binary64) : List Binary64 → Except Fault Binary64
  | [] => .ok sum
  | x :: xs =>
    if (Binary64.ofRatio false place 1).isFinite then
      sixtiethSum (60 * place) (sum.add (x.mulNat place)) xs
    else .error .placeTooLarge

/-- The name of the floating-point value that is no number. -/
def nanName : List Char := ".nan".toList

/-- The floating-point number that a text in small letters without a sign stands for. -/
def realMagnitude (s : List Char) : Except Fault Binary64 :=
  if s = ".inf".toList then .ok (.infinite false)
  else if s = nanName then .ok .nan
  else match s.splitOn ':' with
    | first :: part :: parts => do
      let values ← (first :: part :: parts).mapM realPart
      sixtiethSum 1 (.zero false) values.reverse
    | _ => realPart s

/-- A text of a floating-point number as it is read: whether there is a minus, and the rest in
small letters. -/
def realBody (text : List Char) : Bool × List Char :=
  NumberText.unsigned (Text.inSmallLetters (withoutLowLines text))

/-- The floating-point number that a text stands for. -/
def realValue (text : List Char) : Except Fault Binary64 := do
  if (withoutLowLines text).isEmpty then throw .emptyNumber
  let (negative, body) := realBody text
  let x ← realMagnitude body
  return if negative then x.negate else x

/-! ## Other values -/

/-- The truth value that a text in letters of any case stands for. -/
def boolValue (text : List Char) : Except Fault Bool :=
  let s := Text.inSmallLetters text
  if Kind.isWord ["yes", "true", "on"] s then .ok true
  else if Kind.isWord ["no", "false", "off"] s then .ok false
  else .error (.truthValue (String.ofList s))

/-- The date or moment that a text stands for. -/
def timeValue (text : List Char) : Except Fault Scalar :=
  match WrittenDate.ofText? (Kind.withoutBreak text) with
  | some d => d.value.mapError .calendar
  | none => .error .notDate

/-- The value of a text of a kind of scalars. -/
def scalarValue (kind : Kind) (text : List Char) : Except Fault Scalar :=
  match kind with
  | .null => .ok .null
  | .bool => (boolValue text).map .bool
  | .int => (integerValue text).map .int
  | .real => (realValue text).map .real
  | .octets => (wellFormed (Octets.ofBase64? text)).map .octets
  | .time => timeValue text
  | .text => .ok (.text (String.ofList text))
  | _ => .error .malformed

end KnitPattern.Yaml
