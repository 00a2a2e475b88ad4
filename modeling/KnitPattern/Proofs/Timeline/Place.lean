/-
  Places in a timeline. A place is counted by the cells before it through all rows (`flat`), where
  a row without cells counts as one. Places inside the timeline are told apart by that count
  (`eq_of_flat_eq`), and where no row is empty, the cell at a place is the one of that number in
  the timelines of all rows put one after another (`current?_eq_getElem?`).
-/
import KnitPattern.Cursor
import Mathlib.Algebra.GroupWithZero.Nat
import Mathlib.Data.List.Basic

namespace KnitPattern

/-! ## The cells of rows -/

namespace Row

/-- The number of cells of rows, as a cursor counts them. -/
def cells (rows : List Row) : Nat :=
  (rows.map width).sum

theorem width_pos (r : Row) : 0 < r.width := by
  unfold width
  omega

theorem cells_append (rows rows' : List Row) :
    cells (rows ++ rows') = cells rows + cells rows' := by
  rw [cells, List.map_append, List.sum_append]
  rfl

theorem cells_take_succ {rows : List Row} {i : Nat} (hi : i < rows.length) :
    cells (rows.take (i + 1)) = cells (rows.take i) + rows[i].width := by
  have hone : cells [rows[i]] = rows[i].width := List.sum_singleton
  rw [List.take_succ_eq_append_getElem hi, cells_append, hone]

theorem cells_take_le {i j : Nat} (h : i ≤ j) (rows : List Row) :
    cells (rows.take i) ≤ cells (rows.take j) := by
  have hsplit := List.take_append_drop i (rows.take j)
  rw [List.take_take, Nat.min_eq_left h] at hsplit
  rw [← hsplit, cells_append]
  exact Nat.le_add_right _ _

theorem cells_take_le_cells (i : Nat) (rows : List Row) :
    cells (rows.take i) ≤ cells rows := by
  conv_rhs => rw [← List.take_append_drop i rows, cells_append]
  exact Nat.le_add_right _ _

theorem cells_pos {rows : List Row} (hne : rows ≠ []) : 0 < cells rows := by
  obtain ⟨r, rows, rfl⟩ := List.exists_cons_of_ne_nil hne
  have h := width_pos r
  rw [cells, List.map_cons, List.sum_cons]
  omega

/-- Where a row has cells, a cursor counts just these. -/
theorem width_eq_length {r : Row} (h : r.expanded ≠ []) : r.width = r.expanded.length := by
  have hpos := List.length_pos_iff.2 h
  rw [width, ← length_expanded]
  omega

theorem cells_eq_length {rows : List Row} (h : ∀ r ∈ rows, r.expanded ≠ []) :
    cells rows = (rows.flatMap expanded).length := by
  rw [cells, List.length_flatMap]
  exact congrArg List.sum (List.map_congr_left fun r hr => width_eq_length (h r hr))

end Row

namespace Cursor

variable {rows : List Row} {c c' : Cursor}

/-! ## Counting places -/

/-- How many cells stand before a place, counted through all rows. -/
def flat (rows : List Row) (c : Cursor) : Int :=
  (Row.cells (rows.take c.row.toNat) : Nat) + c.stitch

/-- The cursor names a cell of one of the rows. -/
def InBounds (rows : List Row) (c : Cursor) : Prop :=
  ∃ (i k : Nat) (hi : i < rows.length), k < rows[i].width ∧ c = ⟨i, k⟩

theorem InBounds.flat_nonneg (h : c.InBounds rows) : 0 ≤ flat rows c := by
  obtain ⟨i, k, hi, hk, rfl⟩ := h
  show (0 : Int) ≤ (Row.cells (rows.take i) : Nat) + (k : Int)
  omega

theorem InBounds.flat_lt (h : c.InBounds rows) : flat rows c < Row.cells rows := by
  obtain ⟨i, k, hi, hk, rfl⟩ := h
  have htake := Row.cells_take_succ hi
  have hle := Row.cells_take_le_cells (i + 1) rows
  show ((Row.cells (rows.take i) : Nat) : Int) + (k : Int) < _
  omega

/-- Of two places in different rows, the one in the earlier row is counted first. -/
theorem flat_lt_flat {i j k l : Nat} {hi : i < rows.length} (hk : k < rows[i].width)
    (hij : i < j) : flat rows ⟨i, k⟩ < flat rows ⟨j, l⟩ := by
  have htake := Row.cells_take_succ hi
  have hle : Row.cells (rows.take (i + 1)) ≤ Row.cells (rows.take j) :=
    Row.cells_take_le hij rows
  show ((Row.cells (rows.take i) : Nat) : Int) + (k : Int) <
    ((Row.cells (rows.take j) : Nat) : Int) + (l : Int)
  omega

theorem eq_of_flat_eq (h : c.InBounds rows) (h' : c'.InBounds rows)
    (heq : flat rows c = flat rows c') : c = c' := by
  obtain ⟨i, k, hi, hk, rfl⟩ := h
  obtain ⟨j, l, hj, hl, rfl⟩ := h'
  rcases Nat.lt_trichotomy i j with hij | rfl | hij
  · have := flat_lt_flat (l := l) hk hij
    omega
  · have hkl : ((Row.cells (rows.take i) : Nat) : Int) + (k : Int) =
        ((Row.cells (rows.take i) : Nat) : Int) + (l : Int) := heq
    obtain rfl : k = l := by omega
    rfl
  · have := flat_lt_flat (l := k) hl hij
    omega

/-! ## The nearest place -/

theorem clamp_eq {i : Nat} (hi : i < rows.length) (hrow : nearest rows.length c.row = i) :
    c.clamp rows = ⟨i, nearest rows[i].width c.stitch⟩ := by
  have hfound : c.row? rows = some rows[i] := by
    rw [row?, hrow, List.getElem?_eq_getElem hi]
  rw [clamp, hfound, hrow]

theorem nearest_lt {size : Nat} (h : 0 < size) (i : Int) : nearest size i < size := by
  unfold nearest
  omega

theorem nearest_of_lt {size i : Nat} (h : i < size) : nearest size i = i := by
  unfold nearest
  omega

theorem inBounds_clamp (hne : rows ≠ []) (c : Cursor) : (c.clamp rows).InBounds rows := by
  have hi := nearest_lt (List.length_pos_iff.2 hne) c.row
  rw [clamp_eq hi rfl]
  exact ⟨_, _, hi, nearest_lt (Row.width_pos _) c.stitch, rfl⟩

theorem clamp_of_inBounds (h : c.InBounds rows) : c.clamp rows = c := by
  obtain ⟨i, k, hi, hk, rfl⟩ := h
  rw [clamp_eq hi (nearest_of_lt hi)]
  exact congrArg (fun n : Nat => (⟨i, n⟩ : Cursor)) (nearest_of_lt hk)

/-- The place is before its row only if that is the first one, and behind it only if that is the
last one. -/
def Settled (rows : List Row) (i : Nat) (k : Int) : Prop :=
  ∃ hi : i < rows.length, (0 ≤ k ∨ i = 0) ∧ (k < rows[i].width ∨ i + 1 = rows.length)

/-- A place that is outside of its row is outside of the timeline, so the nearest place of the
row is the nearest of the timeline. -/
theorem flat_clamp {i : Nat} {k : Int} (h : Settled rows i k) :
    flat rows (clamp rows ⟨i, k⟩) = min (max (flat rows ⟨i, k⟩) 0) (Row.cells rows - 1) := by
  obtain ⟨hi, hlow, hhigh⟩ := h
  have htake := Row.cells_take_succ hi
  have hle := Row.cells_take_le_cells (i + 1) rows
  have hwidth := Row.width_pos rows[i]
  rw [clamp_eq hi (nearest_of_lt hi)]
  show ((Row.cells (rows.take i) : Nat) : Int) + (min k.toNat (rows[i].width - 1) : Nat) =
    min (max (((Row.cells (rows.take i) : Nat) : Int) + k) 0) (Row.cells rows - 1)
  rcases Int.lt_or_le k 0 with hneg | hnonneg
  · have hfirst : Row.cells (rows.take i) = 0 := by
      rw [hlow.resolve_left (Int.not_le.2 hneg)]
      rfl
    omega
  · rcases hhigh with hlt | hlast
    · omega
    · rw [hlast, List.take_length] at htake
      omega

/-! ## The last cell -/

theorem isComplete_iff (h : c.InBounds rows) :
    c.isComplete rows = true ↔ flat rows c = Row.cells rows - 1 := by
  obtain ⟨i, k, hi, hk, rfl⟩ := h
  have hlast : rows.getLast? = some rows[rows.length - 1] := by
    rw [List.getLast?_eq_getElem?, List.getElem?_eq_getElem]
  have htake := Row.cells_take_succ hi
  rw [isComplete, hlast]
  simp only [Bool.and_eq_true, beq_iff_eq]
  show ((i : Int) = (rows.length : Int) - 1 ∧ (k : Int) = (rows[rows.length - 1].width : Int) - 1) ↔
    ((Row.cells (rows.take i) : Nat) : Int) + (k : Int) = Row.cells rows - 1
  constructor
  · rintro ⟨hlen, hstitch⟩
    obtain rfl : i = rows.length - 1 := by omega
    rw [Nat.sub_add_cancel (by omega), List.take_length] at htake
    omega
  · intro hflat
    -- a place before the last row is counted before the cells of that row
    have hle : i + 1 < rows.length → Row.cells (rows.take (i + 1)) < Row.cells rows := by
      intro hlt
      have hnext := Row.cells_take_succ hlt
      have := Row.cells_take_le_cells (i + 1 + 1) rows
      have := Row.width_pos rows[i + 1]
      omega
    obtain rfl : i = rows.length - 1 := by omega
    rw [Nat.sub_add_cancel (by omega), List.take_length] at htake
    omega

/-! ## The cell at a place -/

theorem current?_eq_getElem? (hrows : ∀ r ∈ rows, r.expanded ≠ []) (h : c.InBounds rows) :
    current? rows c = (rows.flatMap Row.expanded)[(flat rows c).toNat]? := by
  obtain ⟨i, k, hi, hk, rfl⟩ := h
  have hrow : row? rows ⟨i, k⟩ = some rows[i] := by
    rw [row?, nearest_of_lt hi, List.getElem?_eq_getElem hi]
  have hcurrent : current? rows ⟨i, k⟩ = rows[i].expanded[k]? := by
    rw [current?, hrow]
    show rows[i].expanded[nearest rows[i].width k]? = _
    rw [nearest_of_lt hk]
  have hbefore : ((rows.take i).flatMap Row.expanded).length = Row.cells (rows.take i) :=
    (Row.cells_eq_length fun r hr => hrows r (List.mem_of_mem_take hr)).symm
  have hflat : (flat rows ⟨i, k⟩).toNat = ((rows.take i).flatMap Row.expanded).length + k := by
    rw [hbefore]
    show (((Row.cells (rows.take i) : Nat) : Int) + (k : Int)).toNat = _
    omega
  have hlt : k < rows[i].expanded.length := by
    rwa [← Row.width_eq_length (hrows _ (List.getElem_mem hi))]
  have hsplit : rows.flatMap Row.expanded = (rows.take i).flatMap Row.expanded ++
      (rows[i].expanded ++ (rows.drop (i + 1)).flatMap Row.expanded) := by
    rw [← List.flatMap_cons, ← List.drop_eq_getElem_cons hi, ← List.flatMap_append,
      List.take_append_drop]
  rw [hcurrent, hflat, hsplit, List.getElem?_append_right (Nat.le_add_right _ _),
    Nat.add_sub_cancel_left, List.getElem?_append_left hlt]

end Cursor

end KnitPattern
