/-
  Reading a pattern. The rounds are put in the order of their numbers, rounds of one number
  in the order of the text, and read one after another; bad rounds are reported and left
  out. A reading depends on nothing but its arguments.
-/
import KnitPattern.Reading.Progress
import KnitPattern.Settings.Basic

namespace KnitPattern

/-- A pattern that was read: a row for each good round in ascending order, what is wrong, and
what is remarked, each remark once. -/
structure Pattern where
  rows : List Row
  problems : List Problem
  advice : List Advice

/-- Puts a draft before the first draft whose number is not smaller. -/
def Draft.insert (d : Draft) : List Draft → List Draft
  | [] => [d]
  | e :: ds => if e.number < d.number then e :: insert d ds else d :: e :: ds

/-- Drafts in ascending order of their numbers; drafts of one number keep their order. -/
def Draft.sort (ds : List Draft) : List Draft :=
  ds.foldr Draft.insert []

/-- The elements of a list that differ, under `f`, from all elements before them. -/
def firstsBy {α β : Type} [DecidableEq β] (f : α → β) : List α → List α
  | [] => []
  | a :: as => a :: (firstsBy f as).filter (f · ≠ f a)

namespace Pattern

/-- The progress with which the rounds of an extraction are read: at least one stitch is
live, and the faults of lines are known. -/
def start (starting : Int) (e : Extraction) : Progress where
  live := (max 1 starting).toNat
  problems := e.faults.map fun (line, fault) => .line line fault

/-- The pattern of the last progress of a reading. -/
def ofProgress (p : Progress) : Pattern where
  rows := p.rows
  problems := p.problems
  advice := firstsBy Advice.message p.advice

/-- Reads the rounds of an extraction. -/
def ofExtraction (ctx : Context) (starting : Int) (e : Extraction) : Except Halt Pattern := do
  let last ← (start starting e).run ctx (Draft.sort e.drafts)
  return ofProgress last

/-- Reads a pattern. The glossary and the starting count, where given, stand in for those of
the settings. -/
def ofText (text : String) (settings : Settings := {}) (heuristics : Heuristics := .bundled)
    (glossary : Option Glossary := none) (starting : Option Int := none) :
    Except Halt Pattern := do
  let ctx : Context :=
    { glossary := glossary.getD settings.glossary, heuristics, limits := settings.limits }
  ofExtraction ctx (starting.getD settings.starting) (← Extraction.ofText text)

end Pattern

end KnitPattern
