/-
  The outcome of a draft at a given point of the work: either a row, with the remarks on its
  text, or the reason why there is none. A draft whose own text was found keeps that text
  for references to it, even if it has no row.
-/
import KnitPattern.Body.Expansion
import KnitPattern.Round.Reference
import KnitPattern.Row

namespace KnitPattern

/-- What a draft adds to the work. -/
inductive Outcome where
  /-- A row, the body it was read from, and the remarks on that body. -/
  | row (row : Row) (body : String) (remarks : List Body.Remark)
  /-- No row, for a reason; the body, if it was found. -/
  | rejected (why : Rejection) (body : Option String)

namespace Outcome

/-- The row of an outcome. -/
def row? : Outcome → Option Row
  | row r _ _ => some r
  | rejected _ _ => none

/-- The body that references to the draft will find. -/
def body? : Outcome → Option String
  | row _ body _ => some body
  | rejected _ body => body

/-- Why there is no row. -/
def rejection? : Outcome → Option Rejection
  | row _ _ _ => none
  | rejected why _ => some why

/-- The remarks on the body of a row. -/
def remarks : Outcome → List Body.Remark
  | row _ _ remarks => remarks
  | rejected _ _ => []

end Outcome

namespace Context

/-- The outcome of a draft whose body is found. -/
def outcomeOfBody (ctx : Context) (live index : Int) (d : Draft) (body : String) :
    Except Halt Outcome :=
  match ctx.expand live body with
  | .error (.halted why) => .error why
  | .error (.rejected why) => .ok (.rejected why (some body))
  | .ok ⟨[], _⟩ => .ok (.rejected .noInstructions (some body))
  | .ok ⟨op :: ops, remarks⟩ =>
    .ok (.row (.ofOperations d (op :: ops) live index) body remarks)

/-- The outcome of a draft, given the live stitches, the bodies read before it and the number
of rows. -/
def outcome (ctx : Context) (live : Int) (bodies : Bodies) (index : Int) (d : Draft) :
    Except Halt Outcome :=
  match d.resolve bodies with
  | .error (.halted why) => .error why
  | .error (.rejected why) => .ok (.rejected why none)
  | .ok body => ctx.outcomeOfBody live index d body

end Context

end KnitPattern
