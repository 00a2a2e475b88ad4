/-
  The shortest decimal text of a floating-point number: of the decimals that are nearest to
  no other number, one with the fewest digits, and of these the nearest. A decimal point is
  written from the fourth place after it to the sixteenth before it, else an exponent.
-/
import KnitPattern.Binary64.Basic

namespace KnitPattern.Binary64

/-- The exponent of the first decimal digit of `n / d`. -/
def leadExponent (n d : Nat) : Int :=
  if d ≤ n then (Nat.toDigits 10 (n / d)).length - 1
  else
    let places := (List.range 330).find? fun j => d ≤ n * Nat.pow 10 j
    Int.negOfNat (places.getD 330)

/-- The decimals of grid `10 ^ p` on both sides of `n / d`, in units of the grid, each with a
measure of its distance to `n / d`. -/
def neighbours (n d : Nat) (p : Int) : List (Nat × Nat) :=
  let (n, d) := if p < 0 then (n * Nat.pow 10 (-p).toNat, d) else (n, d * Nat.pow 10 p.toNat)
  let q := n / d
  [(q, n - q * d), (q + 1, (q + 1) * d - n)]

/-- The decimals of `count` digits around a positive number that read back as the number,
as digits and exponent; the nearest one if there are two, from halfway the even one. -/
def withDigits? (s : Nat) (e : Int) (count : Nat) : Option (Nat × Int) :=
  let (n, d) := ratio s e
  let p := leadExponent n d - count + 1
  let fits := (neighbours n d p).filter fun k => ofDecimal false k.1 p == .finite false s e
  match fits with
  | [] => none
  | [k] => some (k.1, p)
  | k :: k' :: _ =>
    some (if k.2 < k'.2 || (k.2 == k'.2 && k.1 % 2 == 0) then k.1 else k'.1, p)

/-- The shortest decimal of a positive number, as digits and exponent. -/
def shortest (s : Nat) (e : Int) : Nat × Int :=
  ((List.range 17).findSome? fun i => withDigits? s e (i + 1)).getD (0, 0)

/-- The digits of a decimal without zeros at the end, and the place of its point: how many
digits stand before it. -/
def placed (digits : Nat) (exponent : Int) : List Char × Int :=
  let ds := Nat.toDigits 10 digits
  ((ds.reverse.dropWhile (· == '0')).reverse, exponent + ds.length)

/-- The digits with a point after `point` of them. -/
def positional (ds : List Char) (point : Int) : List Char :=
  if point ≤ 0 then ['0', '.'] ++ List.replicate (-point).toNat '0' ++ ds
  else
    let whole := ds.take point.toNat ++ List.replicate (point.toNat - ds.length) '0'
    let part := ds.drop point.toNat
    whole ++ ['.'] ++ (if part.isEmpty then ['0'] else part)

/-- The digits with a point after the first, if more follow, and an exponent of at least two
digits. -/
def scientific (ds : List Char) (point : Int) : List Char :=
  let e := point - 1
  let size := Nat.toDigits 10 e.natAbs
  let mark := if e < 0 then ['e', '-'] else ['e', '+']
  let part := ds.drop 1
  ds.take 1 ++ (if part.isEmpty then [] else '.' :: part) ++ mark ++
    List.replicate (2 - size.length) '0' ++ size

/-- The text of a positive number. -/
def magnitudeText (s : Nat) (e : Int) : List Char :=
  let (digits, exponent) := shortest s e
  let (ds, point) := placed digits exponent
  if -4 < point ∧ point ≤ 16 then positional ds point else scientific ds point

/-- The text of a number. -/
def toText : Binary64 → String
  | nan => "nan"
  | infinite negative => if negative then "-inf" else "inf"
  | finite negative s e =>
    let text := if s = 0 then ['0', '.', '0'] else magnitudeText s e
    String.ofList (if negative then '-' :: text else text)

end KnitPattern.Binary64
