/-
  Cursors: a place in the timeline of a pattern. A cursor names a cell of a row; a row
  without cells counts as one cell. Moving past the end of a row goes on in the next row,
  and moving before its start in the row before; the first and the last cell are never left.
-/
import KnitPattern.Row

namespace KnitPattern

/-- A place in the timeline, possibly outside of it. -/
structure Cursor where
  row : Int := 0
  stitch : Int := 0
  deriving DecidableEq

/-- Where a move ends, and whether that is the last cell of the last row. -/
structure Cursor.Move where
  cursor : Cursor
  completed : Bool
  deriving DecidableEq

/-- The cells of a row as a cursor counts them. -/
def Row.width (r : Row) : Nat :=
  max 1 r.total

namespace Cursor

/-- The nearest number from zero up to but not including `size`, or zero if `size` is zero. -/
def nearest (size : Nat) (i : Int) : Nat :=
  min i.toNat (size - 1)

/-- The row that a cursor is in or nearest to. -/
def row? (rows : List Row) (c : Cursor) : Option Row :=
  rows[nearest rows.length c.row]?

/-- The nearest place in the timeline; of an empty timeline, the first place. -/
def clamp (rows : List Row) (c : Cursor) : Cursor :=
  match c.row? rows with
  | none => {}
  | some r => ⟨nearest rows.length c.row, nearest r.width c.stitch⟩

/-- Whether a cursor is at the last cell of the last row. -/
def isComplete (rows : List Row) (c : Cursor) : Bool :=
  match rows.getLast? with
  | none => false
  | some r => c.row == (rows.length : Int) - 1 && c.stitch == (r.width : Int) - 1

/-- Takes a place `k` cells after the start of the first of the given rows into the row it
lies in, or into the last row: how many rows it passes, and where it is in the row. -/
def forward : List Row → Int → Nat × Int
  | r :: r' :: rows, k =>
    if (r.width : Int) ≤ k then
      let (n, k) := forward (r' :: rows) (k - r.width)
      (n + 1, k)
    else (0, k)
  | _, k => (0, k)

/-- Takes a place `k` cells before or after the start of a row back into the row it lies in,
given the rows before it, nearest first. -/
def backward : List Row → Int → Nat × Int
  | r :: rows, k =>
    if k < 0 then
      let (n, k) := backward rows (k + r.width)
      (n + 1, k)
    else (0, k)
  | [], k => (0, k)

/-- The move to a place, if the timeline has it, or else to the nearest one. -/
def moveTo (rows : List Row) (c : Cursor) : Move :=
  let c := c.clamp rows
  ⟨c, c.isComplete rows⟩

/-- Moves by a number of cells, back if it is negative. -/
def advance (rows : List Row) (c : Cursor) (amount : Int) : Move :=
  let i := nearest rows.length c.row
  let k := (c.clamp rows).stitch + amount
  if k < 0 then
    let (n, k) := backward (rows.take i).reverse k
    moveTo rows ⟨(i : Int) - n, k⟩
  else
    let (n, k) := forward (rows.drop i) k
    moveTo rows ⟨(i : Int) + n, k⟩

/-- Moves by a number of rows, to the first cell of the row. -/
def moveRows (rows : List Row) (c : Cursor) (offset : Int) : Move :=
  moveTo rows ⟨c.row + offset, 0⟩

/-- The cell at a cursor, if the timeline has any there. -/
def current? (rows : List Row) (c : Cursor) : Option Step := do
  let r ← c.row? rows
  r.expanded[nearest r.width c.stitch]?

end Cursor

end KnitPattern
