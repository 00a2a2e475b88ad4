/-
  Rows: a round laid out as a timeline. Each operation is a step of as many cells as it has
  units, and the stitches at the end of the row follow from the stitches at its start.
-/
import KnitPattern.Operation
import KnitPattern.Round.Draft

namespace KnitPattern

/-- A stretch of the timeline: `count` cells of one instruction. -/
structure Step where
  code : String
  label : String
  count : Nat
  deriving DecidableEq

/-- A round laid out: its position among the rows, the round's number, text and name, one step
for each operation, and the live stitches before and after it. -/
structure Row where
  index : Int
  number : Int
  raw : String
  label : String
  sequence : List Step
  startCount : Int
  endCount : Nat
  deriving DecidableEq

/-- The step of an operation. -/
def Operation.step (op : Operation) : Step :=
  ⟨op.code, op.label, op.units⟩

/-- The net change in live stitches that operations make together. -/
def Operation.totalDelta (ops : List Operation) : Int :=
  (ops.map delta).foldr (· + ·) 0

/-- The cells of a step, each a step of count 1. -/
def Step.cells (s : Step) : List Step :=
  List.replicate s.count { s with count := 1 }

namespace Row

/-- The name of a row, which no other row of one reading has. -/
def id (r : Row) : String :=
  s!"row-{r.index}-{r.number}"

/-- The timeline, one step for each cell. -/
def expanded (r : Row) : List Step :=
  r.sequence.flatMap Step.cells

/-- The number of cells. -/
def total (r : Row) : Nat :=
  (r.sequence.map Step.count).foldr (· + ·) 0

/-- Lays out the operations of a round. The count at the end is never below zero. -/
def ofOperations (d : Draft) (ops : List Operation) (start index : Int) : Row where
  index
  number := d.number
  raw := d.raw
  label := d.label
  sequence := ops.map Operation.step
  startCount := start
  endCount := (start + Operation.totalDelta ops).toNat

theorem length_expanded (r : Row) : r.expanded.length = r.total := by
  rw [expanded, List.length_flatMap]
  exact congrArg List.sum (List.map_congr_left fun s _ => List.length_replicate ..)

end Row

end KnitPattern
