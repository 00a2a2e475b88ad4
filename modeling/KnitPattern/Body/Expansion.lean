/-
  From an instruction text to its operations. The live count changes only between rounds, so
  every copy of a repeat block, and every instruction to knit around in it, meets the same
  count. A text that covers more stitches than the limit is rejected before its copies are
  laid out.
-/
import KnitPattern.Body.Form
import KnitPattern.Rejection
import KnitPattern.Stitch.Reading
import KnitPattern.Stitch.Token

namespace KnitPattern

/-- What is remarked about an instruction text. -/
inductive Body.Remark where
  /-- A repeat block asks for more copies than the limit, and gets as many as that. -/
  | clamped (times : Nat) (limit : Int)
  /-- A remark about one of its operations. -/
  | operation (remark : Operation.Remark)
  deriving DecidableEq

def Body.Remark.message : Body.Remark → String
  | clamped times limit => s!"Repeat count {times} exceeds {limit}; clamped to {limit}"
  | operation remark => remark.message

/-- The operations of an instruction text, and what is remarked about it. -/
structure Expansion where
  operations : List Operation
  remarks : List Body.Remark

namespace Operation

/-- The cells that operations fill together. -/
def totalUnits (ops : List Operation) : Nat :=
  (ops.map units).foldr (· + ·) 0

/-- The remarks about operations, in order. -/
def remarks (ops : List Operation) : List Body.Remark :=
  (ops.filterMap remark).map .operation

end Operation

/-- `n` copies of a list one after the other; of the empty list none are laid out. -/
def copies {α : Type} (n : Nat) : List α → List α
  | [] => []
  | x :: xs => (List.replicate n (x :: xs)).flatten

namespace Context

/-- The instruction to knit every live stitch; it fills one cell even if none is live. -/
def aroundOperation (ctx : Context) (live : Int) : Operation :=
  let n := (max 1 live).toNat
  { code := "k around", label := ctx.label "k around", consume := n, produce := n, units := n }

/-- Rejects a number of stitches over the limit, if the two can be written. -/
def checkStitches (ctx : Context) (units : Int) : Except Stop Unit :=
  if units > ctx.limits.stitches then
    if Halt.isWritable units && Halt.isWritable ctx.limits.stitches then
      .error (.rejected (.overLimit units ctx.limits.stitches))
    else .error (.halted .numberTooLong)
  else .ok ()

/-- What is remarked about a repeat block that asks for so many copies, if the limit that it then
names can be written. -/
def clamp (ctx : Context) (asked : Nat) : Except Stop (List Body.Remark) :=
  if asked > ctx.limits.repeats then
    if Halt.isWritable ctx.limits.repeats then .ok [.clamped asked ctx.limits.repeats]
    else .error (.halted .numberTooLong)
  else .ok []

/-- The operation that knits every live stitch, if they are not too many. -/
def around (ctx : Context) (live : Int) : Except Stop Operation := do
  ctx.checkStitches live
  return ctx.aroundOperation live

/-- The operation of a token at a live count. -/
def operation (ctx : Context) (live : Int) (token : List Char) : Except Stop Operation :=
  if Body.isAround token then ctx.around live
  else liftM (ctx.classify (String.ofList token))

/-- The operations of the tokens of a text. -/
def operations (ctx : Context) (live : Int) (text : List Char) : Except Stop (List Operation) :=
  (Token.split text).mapM (ctx.operation live)

/-- A repeat block: its operations, copied as often as its numeral and the limit allow. -/
def expandBlock (ctx : Context) (live : Int) (inner times : List Char) :
    Except Stop Expansion := do
  let ops ← ctx.operations live inner
  let asked ← liftM (Numeral.read times)
  let clamped ← ctx.clamp asked
  let n := min (asked : Int) ctx.limits.repeats
  ctx.checkStitches (Operation.totalUnits ops * n)
  if !Halt.isCopyCount n then throw (.halted .tooManyCopies)
  if !Halt.canLayOut (ops.length * n.toNat) then throw (.halted .tooManyOperations)
  return ⟨copies n.toNat ops, clamped ++ Operation.remarks ops⟩

/-- A plain list of tokens. -/
def expandPlain (ctx : Context) (live : Int) (text : List Char) : Except Stop Expansion := do
  let ops ← ctx.operations live text
  ctx.checkStitches (Operation.totalUnits ops)
  return ⟨ops, Operation.remarks ops⟩

/-- The operations of an instruction text at a live count. -/
def expand (ctx : Context) (live : Int) (body : String) : Except Stop Expansion :=
  match Body.form (Text.trim body.toList) with
  | .around => do return ⟨[← ctx.around live], []⟩
  | .block inner times => ctx.expandBlock live inner times
  | .plain text => ctx.expandPlain live text

end Context

end KnitPattern
