/-
  What every round of one reading shares: the glossary, the heuristic labels, and the
  limits on repeats and on stitches.
-/
import KnitPattern.Heuristics.Bundled

namespace KnitPattern

/-- The most copies a repeat block may ask for, and the most stitches that one instruction
or one round may cover. -/
structure Limits where
  repeats : Int := 10000
  stitches : Int := 10000
  deriving DecidableEq

/-- What every round of one reading shares. -/
structure Context where
  glossary : Glossary := []
  heuristics : Heuristics := .bundled
  limits : Limits := {}

/-- The label of an abbreviation: its title in the glossary, else its heuristic label if
that is not empty, else the abbreviation itself. -/
def Context.label (ctx : Context) (code : String) : String :=
  match ctx.glossary.title? code with
  | some title => title
  | none =>
    match ctx.heuristics.label? code with
    | some label => if label = "" then code else label
    | none => code

end KnitPattern
