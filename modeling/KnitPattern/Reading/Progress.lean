/-
  The progress of a reading through the drafts of a pattern, one after another. Each draft is
  read at the live count and with the bodies that the drafts before it left, and adds its
  outcome.
-/
import KnitPattern.Reading.Outcome
import KnitPattern.Round.Extraction

namespace KnitPattern

/-- What is wrong with a pattern. -/
inductive Problem where
  /-- A line is not read. -/
  | line (number : Nat) (fault : Line.Fault)
  /-- A round has no row. -/
  | round (label : String) (why : Rejection)
  /-- A problem given by the caller. -/
  | noted (text : String)
  deriving DecidableEq

def Problem.message : Problem → String
  | line number fault => fault.message number
  | round label why => s!"{label}: {why.message}"
  | noted text => text

/-- What is remarked about a pattern, without costing it a row. -/
inductive Advice where
  /-- A remark about a round. -/
  | round (label : String) (remark : Body.Remark)
  /-- A remark given by the caller. -/
  | noted (text : String)
  deriving DecidableEq

def Advice.message : Advice → String
  | round label remark => s!"{label}: {remark.message}"
  | noted text => text

/-- How far a reading has come: the live count, the bodies for references, and the rows,
problems and advice so far. -/
structure Progress where
  live : Nat := 1
  bodies : Bodies := []
  rows : List Row := []
  problems : List Problem := []
  advice : List Advice := []

namespace Progress

/-- Adds the outcome of a draft. -/
def add (p : Progress) (d : Draft) : Outcome → Progress
  | .row row body remarks =>
    { live := row.endCount
      bodies := p.bodies.put d.number body
      rows := p.rows ++ [row]
      problems := p.problems
      advice := p.advice ++ remarks.map (.round d.label) }
  | .rejected why body =>
    { p with
      bodies := match body with
        | some body => p.bodies.put d.number body
        | none => p.bodies
      problems := p.problems ++ [.round d.label why] }

/-- The outcome of a draft at this point. -/
def outcome (ctx : Context) (p : Progress) (d : Draft) : Except Halt Outcome :=
  ctx.outcome p.live p.bodies p.rows.length d

/-- The progress after one more draft. -/
def step (ctx : Context) (p : Progress) (d : Draft) : Except Halt Progress := do
  return p.add d (← p.outcome ctx d)

/-- The progress after a list of drafts, in the given order. -/
def run (ctx : Context) (p : Progress) (ds : List Draft) : Except Halt Progress :=
  ds.foldlM (step ctx) p

/-- The outcome of every draft, with the progress it was added to, and the progress at the
end. -/
def trace (ctx : Context) (p : Progress) :
    List Draft → Except Halt (List (Progress × Outcome) × Progress)
  | [] => return ([], p)
  | d :: ds => do
    let o ← p.outcome ctx d
    let (os, last) ← trace ctx (p.add d o) ds
    return ((p, o) :: os, last)

/-! ## A given point to start from -/

/-- The live count that a reading may start from: any that is not negative. -/
def live? (given : Int) : Option Nat :=
  if given < 0 then none else some given.toNat

/-- What is said of a live count that no reading starts from. -/
def negativeLive (given : Int) : String :=
  s!"live_stitches cannot be negative, got {given}"

end Progress

end KnitPattern
