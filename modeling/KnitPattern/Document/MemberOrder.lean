/-
  The order of the members of a set. Numbers stand at places that follow from their values: a
  set has a power of two of places, more than twice as many as members unless it is small, and
  a member whose place is taken goes on to another. Sets with other members are in the order of
  the file.
-/
import KnitPattern.Document.Basic

namespace KnitPattern

/-! ## Marks of numbers -/

/-- The prime by which numbers are divided for their marks. -/
def markModulus : Nat := Nat.pow 2 61 - 1

/-- A mark with a sign; the mark -1 is left out. -/
def signedMark (negative : Bool) (n : Nat) : Int :=
  if negative then (if n = 1 then -2 else -n) else n

/-- The mark of a whole number: its remainder. -/
def intMark (n : Int) : Int :=
  signedMark (n < 0) (n.natAbs % markModulus)

/-- The mark of a floating-point number, which agrees with that of the whole number it may be:
since the modulus is 2 ^ 61 - 1, a power of two counts by its exponent modulo 61. -/
def Binary64.mark? : Binary64 → Option Int
  | nan => none
  | infinite negative => some (signedMark negative 314159)
  | finite negative significand exponent =>
    some (signedMark negative (significand * Nat.pow 2 (exponent % 61).toNat % markModulus))

/-- The mark of a member that is a number. -/
def Scalar.mark? : Scalar → Option Int
  | real x => x.mark?
  | s => s.int?.map intMark

/-! ## Places -/

/-- The number of places of a set. -/
def placeCount (members : Nat) : Nat :=
  if members < 5 then 8 else Nat.pow 2 ((2 * members).log2 + 1)

/-- The first free place on the way from a place: a few places in a row if there are as many,
then on to another place, which also depends on what is left of the mark. -/
def freePlace {α : Type} (places : Array (Option α)) (left : Nat) :
    (fuel : Nat) → Nat → Nat
  | 0, place => place
  | fuel + 1, place =>
    let more := if place + 9 < places.size then 9 else 0
    match (List.range (more + 1)).find? fun i => (places.getD (place + i) none).isNone with
    | some i => place + i
    | none =>
      let left := left / 32
      freePlace places left fuel ((5 * place + 1 + left) % places.size)

/-- Puts a member with a mark at its place. A mark counts as a number of 64 bits, which is used
up after thirteen steps; the steps that follow meet every place. -/
def putMember {α : Type} (places : Array (Option α)) (mark : Int) (a : α) : Array (Option α) :=
  let bits := (mark % Nat.pow 2 64).toNat
  places.set! (freePlace places bits (places.size + 14) (bits % places.size)) (some a)

/-- The members of a set in their order. -/
def inMemberOrder (members : List Scalar) : List Scalar :=
  match members.mapM Scalar.mark? with
  | none => members
  | some marks =>
    let start := Array.replicate (placeCount members.length) none
    let places := (marks.zip members).foldl (fun ps (mark, a) => putMember ps mark a) start
    places.toList.filterMap id

end KnitPattern
