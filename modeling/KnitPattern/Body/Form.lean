/-
  The forms of an instruction text. A text is an instruction to knit around, a repeat block
  `*...*, rep from * to * N times`, or a plain list of tokens. The stars of a block show how
  it is put together: the text is cut at its stars and the pieces are read one by one, the
  clause `rep from` backwards from the star after it, since anything may stand before it.
-/
import KnitPattern.Text.Scan

namespace KnitPattern.Body

open Text Scan

/-- The form of an instruction text. -/
inductive Form where
  /-- Every live stitch is knit. -/
  | around
  /-- The tokens of `inner`, as many times as the numeral `times` says. -/
  | block (inner times : List Char)
  /-- The tokens of `text`. -/
  | plain (text : List Char)
  deriving DecidableEq

/-- The instruction to knit every live stitch. -/
def around : Scan Unit := do
  phrase ["k", "around"]
  optional (word ".")

/-- Whether a text is the instruction to knit every live stitch. -/
def isAround (s : List Char) : Bool :=
  (whole around s).isSome

/-! ## The pieces of a repeat block -/

/-- The piece between the star that closes a block and the star it repeats from. -/
def fromPiece : Scan Unit := do
  blanks
  optional (word "," <|> word ";")
  blanks
  word "rep"
  optional (word "eat")
  blanks1
  word "from"
  blanks1

/-- The clause `rep from` at the end of a piece, read backwards. -/
def fromBackwards : Scan Unit := do
  blanks1
  word "morf"
  blanks1
  word "per" <|> word "taeper"

/-- The piece between the star a block repeats from and the star it repeats to. -/
def toPiece : Scan Unit := do
  blanks
  word "to"
  blanks

/-- The piece after the last star, with the numeral in it. -/
def timesPiece : Scan (List Char) := do
  blanks1
  let n ← digits1
  blanks1
  word "time"
  optional (word "s")
  optional (word ".")
  return n

/-- The text of a block that a star closes. -/
def closedInner? (piece next : List Char) : Option (List Char) :=
  if piece ≠ [] ∧ (whole fromPiece next).isSome then some piece else none

/-- The text of a block that runs on to the clause `rep from`. -/
def openInner? (piece : List Char) : Option (List Char) :=
  match fromBackwards piece.reverse with
  | some ((), rest) => if rest ≠ [] then some rest.reverse else none
  | none => none

/-- The inner text and the numeral of a repeat block, by its pieces between stars. -/
def blockOfPieces? : List (List Char) → Option (List Char × List Char)
  | [[], a, times] => do
    let inner ← openInner? a
    let n ← whole timesPiece times
    return (inner, n)
  | [[], a, b, times] => do
    let inner ← if (whole toPiece b).isSome then openInner? a else closedInner? a b
    let n ← whole timesPiece times
    return (inner, n)
  | [[], a, b, c, times] => do
    let inner ← if (whole toPiece c).isSome then closedInner? a b else none
    let n ← whole timesPiece times
    return (inner, n)
  | _ => none

/-- The form of a text without blanks at its ends. -/
def form (text : List Char) : Form :=
  if isAround text then .around
  else match blockOfPieces? (text.splitOn '*') with
    | some (inner, times) => .block inner times
    | none => .plain text

end KnitPattern.Body
