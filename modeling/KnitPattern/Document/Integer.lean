/-
  Whole numbers from documents: truth values count as one and zero, fractions are cut off,
  and a text, or octets that are one, may hold a number with a sign, and low lines between its
  digits.
-/
import KnitPattern.Document.Basic
import KnitPattern.Document.NumberText

namespace KnitPattern.Document

/-- A kind of documents that hold no number. -/
inductive Numberless where
  | null
  | date
  | moment
  | list
  | mapping
  | pair
  | set
  deriving DecidableEq

/-- What a kind is called in messages. -/
def Numberless.name : Numberless → String
  | null => "NoneType"
  | date => "datetime.date"
  | moment => "datetime.datetime"
  | list => "list"
  | mapping => "dict"
  | pair => "tuple"
  | set => "set"

/-- Why a document is no whole number. -/
inductive IntegerFault where
  | infinite
  | notANumber
  | text (fault : NumberText.Fault)
  | numberless (kind : Numberless)
  deriving DecidableEq

def IntegerFault.message : IntegerFault → String
  | infinite => "cannot convert float infinity to integer"
  | notANumber => "cannot convert float NaN to integer"
  | text fault => fault.message
  | numberless kind =>
    "int() argument must be a string, a bytes-like object or a real number, not " ++
      Text.quote kind.name

/-- The whole number nearest to zero that a floating-point number goes beyond. -/
def truncate : Binary64 → Except IntegerFault Int
  | .nan => .error .notANumber
  | .infinite _ => .error .infinite
  | .finite negative s e =>
    let (n, d) := Binary64.ratio s e
    let q : Int := (n / d : Nat)
    .ok (if negative then -q else q)

/-- The whole number that a scalar holds. -/
def integerOfScalar : Scalar → Except IntegerFault Int
  | .null => .error (.numberless .null)
  | .bool b => .ok (if b then 1 else 0)
  | .int n => .ok n
  | .real x => truncate x
  | .text s => (NumberText.decimal s).mapError .text
  | .octets bs => (NumberText.integer 10 bs.shown bs.toChars).mapError .text
  | .date _ => .error (.numberless .date)
  | .moment _ => .error (.numberless .moment)

/-- The whole number that a document holds. -/
def toInteger (d : Document) : Except IntegerFault Int :=
  match d.seen with
  | .scalar s => integerOfScalar s
  | .mapping _ => .error (.numberless .mapping)
  | .pair _ _ => .error (.numberless .pair)
  | .set _ => .error (.numberless .set)
  | _ => .error (.numberless .list)

end KnitPattern.Document
