/-
  From a token to its operation. A token of none of the shapes, or one that covers more
  stitches than the limit, counts as one stitch worked even and carries a remark; so every
  token without an overlong numeral has an operation, unless its remark names a limit that cannot
  be written.
-/
import KnitPattern.Context
import KnitPattern.Operation
import KnitPattern.Stitch.Shape

namespace KnitPattern

/-- The most stitches that an instruction reads, makes or fills cells with. -/
def Stitch.Counts.widest (c : Stitch.Counts) : Nat :=
  max (max c.consume c.produce) c.units

namespace Context

/-- The operation of an instruction with the given counts, within the limit on stitches. -/
def limited (ctx : Context) (token : String) (c : Stitch.Counts) : Operation :=
  if c.widest > ctx.limits.stitches then
    .guess token (ctx.label token) (.tooWide token ctx.limits.stitches)
  else
    { code := token, label := ctx.label token, consume := c.consume, produce := c.produce,
      units := c.units, units_pos := c.units_pos }

/-- The operation of a token. -/
def classify (ctx : Context) (token : String) : Except Halt Operation :=
  match Stitch.ofToken? token.toList with
  | none => .ok (.guess token (ctx.label token) (.unrecognized token))
  | some stitch => do (ctx.limited token (← stitch.counts)).written

end Context

end KnitPattern
