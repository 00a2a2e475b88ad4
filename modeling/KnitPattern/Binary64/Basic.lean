/-
  Binary floating-point numbers of 64 bits, as exact values: a number that is finite is its
  significand times a power of two. Every operation works on the exact result and rounds it
  once, to the nearest number and from halfway to the even one.
-/

namespace KnitPattern

/-- A binary floating-point number: not a number, infinite, or `± significand * 2 ^ exponent`
with a significand below `2 ^ 53`. -/
inductive Binary64 where
  | nan
  | infinite (negative : Bool)
  | finite (negative : Bool) (significand : Nat) (exponent : Int)
  deriving DecidableEq

namespace Binary64

/-- The least exponent of a finite number. -/
def minExponent : Int := -1074

/-- The greatest exponent of a finite number. -/
def maxExponent : Int := 971

/-- The number zero. -/
def zero (negative : Bool) : Binary64 :=
  .finite negative 0 minExponent

/-- The whole number nearest to `n / d`, from halfway the even one. -/
def roundHalfEven (n d : Nat) : Nat :=
  let q := n / d
  let r := n % d
  if 2 * r > d || (2 * r == d && q % 2 == 1) then q + 1 else q

/-- `n / d` divided by `2 ^ e`, as a ratio of whole numbers. -/
def scaled (n d : Nat) (e : Int) : Nat × Nat :=
  if e < 0 then (n * Nat.pow 2 (-e).toNat, d) else (n, d * Nat.pow 2 e.toNat)

/-- The exponent that gives `n / d` a significand of 53 bits, or the least exponent. -/
def exponentOf (n d : Nat) : Int :=
  let e : Int := (Nat.log2 n : Int) - Nat.log2 d - 52
  let (n', d') := scaled n d e
  max minExponent (if n' / d' < Nat.pow 2 52 then e - 1 else e)

/-- The number nearest to `± n / d`. -/
def ofRatio (negative : Bool) (n d : Nat) : Binary64 :=
  if n = 0 then zero negative
  else
    let e := exponentOf n d
    let (n', d') := scaled n d e
    let s := roundHalfEven n' d'
    let (s, e) := if s = Nat.pow 2 53 then (Nat.pow 2 52, e + 1) else (s, e)
    if e > maxExponent then .infinite negative else .finite negative s e

/-- The absolute value of a finite number as a ratio. -/
def ratio (significand : Nat) (exponent : Int) : Nat × Nat :=
  if exponent < 0 then (significand, Nat.pow 2 (-exponent).toNat)
  else (significand * Nat.pow 2 exponent.toNat, 1)

/-- The number nearest to `± digits * 10 ^ exponent`. Far outside the range of exponents the
result is known without the power of ten. -/
def ofDecimal (negative : Bool) (digits : Nat) (exponent : Int) : Binary64 :=
  let size := exponent + (Nat.toDigits 10 digits).length
  if digits = 0 || size < -330 then zero negative
  else if size > 330 then .infinite negative
  else if exponent < 0 then ofRatio negative digits (Nat.pow 10 (-exponent).toNat)
  else ofRatio negative (digits * Nat.pow 10 exponent.toNat) 1

/-- The number with the other sign. -/
def negate : Binary64 → Binary64
  | nan => nan
  | infinite negative => .infinite !negative
  | finite negative s e => .finite (!negative) s e

/-- The product of a number and the number nearest to a whole number. -/
def mulNat (x : Binary64) (k : Nat) : Binary64 :=
  match x, ofRatio false k 1 with
  | finite negative s e, finite _ s' e' =>
    let (n, d) := ratio s e
    let (n', d') := ratio s' e'
    ofRatio negative (n * n') (d * d')
  | finite negative _ _, _ => .infinite negative
  | x, _ => x

/-- The value of a finite number as a ratio with a sign. -/
def signedRatio (negative : Bool) (significand : Nat) (exponent : Int) : Int × Nat :=
  let (n, d) := ratio significand exponent
  (if negative then -(n : Int) else n, d)

/-- The sum of two numbers. A sum of zero is positive, unless both numbers are negative. -/
def add : Binary64 → Binary64 → Binary64
  | nan, _ => nan
  | _, nan => nan
  | infinite negative, infinite negative' =>
    if negative = negative' then .infinite negative else nan
  | infinite negative, _ => .infinite negative
  | _, infinite negative => .infinite negative
  | finite negative s e, finite negative' s' e' =>
    let (n, d) := signedRatio negative s e
    let (n', d') := signedRatio negative' s' e'
    let sum := n * d' + n' * d
    ofRatio (sum < 0 || (sum == 0 && negative && negative')) sum.natAbs (d * d')

/-- Whether a number is the given whole number. -/
def isInt (x : Binary64) (k : Int) : Bool :=
  match x with
  | finite negative s e =>
    let (n, d) := signedRatio negative s e
    n == k * d
  | _ => false

/-- Whether two numbers count as one: zeros of both signs do, and all that is not a number. -/
def sameNumber : Binary64 → Binary64 → Bool
  | finite negative s e, finite negative' s' e' =>
    s == s' && (s == 0 || (negative == negative' && e == e'))
  | infinite negative, infinite negative' => negative == negative'
  | nan, nan => true
  | _, _ => false

/-- Whether a number is finite. -/
def isFinite : Binary64 → Bool
  | finite _ _ _ => true
  | _ => false

/-- Whether a number is a zero. -/
def isZero : Binary64 → Bool
  | finite _ s _ => s == 0
  | _ => false

end Binary64

end KnitPattern
