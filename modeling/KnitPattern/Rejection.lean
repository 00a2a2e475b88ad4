/-
  What costs a round its row, and what may stop the work on a round: a rejection, which
  the other rounds outlive, or a halt, which ends the whole reading.
-/
import KnitPattern.Halt

namespace KnitPattern

/-- What costs a round its row. -/
inductive Rejection where
  /-- The round refers to a round that was not read before it. -/
  | unresolved (target : Nat)
  /-- The round covers more stitches than the limit. -/
  | overLimit (units limit : Int)
  /-- The round holds no instructions. -/
  | noInstructions
  deriving DecidableEq

def Rejection.message : Rejection → String
  | unresolved target => s!"unresolved reference to round {target} (not parsed before it)"
  | overLimit units limit => s!"{units} stitches exceed the limit of {limit}"
  | noInstructions => "no instructions parsed"

/-- What stops the work on a round. -/
inductive Stop where
  | rejected (why : Rejection)
  | halted (why : Halt)
  deriving DecidableEq

/-- A halt stops the work on a round too. -/
instance : MonadLift (Except Halt) (Except Stop) where
  monadLift x := x.mapError .halted

end KnitPattern
