/-
  A counter of stitches that is linked to the cursor. As long as the timeline has room for its
  value, the cursor stays the same number of cells beyond it (`InStep`, kept by every increment):
  an increment moves the cursor by the change it makes, not by the amount it is asked for, so an
  increment that is cut off at zero takes the cursor back by what was left.
-/
import KnitPattern.Counter
import KnitPattern.Proofs.Timeline.Advance

namespace KnitPattern

namespace Counter

variable {rows : List Row} {ahead : Nat} {c : Counter} {cursor : Cursor}

/-! ## One increment -/

/-- The cursor is in the timeline, and `ahead` cells beyond the value of a counter that moves it by
stitches. -/
structure InStep (rows : List Row) (ahead : Nat) (c : Counter) (cursor : Cursor) : Prop where
  kind : c.kind = .stitch
  linked : c.linked = true
  inBounds : cursor.InBounds rows
  flat_eq : cursor.flat rows = c.value + ahead

theorem value_increment (c : Counter) (amount : Int) :
    (c.increment amount).value = (c.value + amount).toNat := by
  unfold increment
  dsimp only
  split
  · next hsame => exact hsame.symm
  · rfl

theorem kind_increment (c : Counter) (amount : Int) : (c.increment amount).kind = c.kind := by
  unfold increment
  dsimp only
  split <;> rfl

theorem linked_increment (c : Counter) (amount : Int) :
    (c.increment amount).linked = c.linked := by
  unfold increment
  dsimp only
  split <;> rfl

/-- An increment without a change moves the cursor by nothing, like every other by its change. -/
theorem incrementLinked_of_stitch (hkind : c.kind = .stitch) (hlinked : c.linked = true)
    (amount : Int) (rows : List Row) (cursor : Cursor) :
    c.incrementLinked amount rows cursor =
      (c.increment amount, cursor.advance rows ((c.increment amount).value - c.value)) := by
  unfold incrementLinked
  simp only [hkind, hlinked, Bool.not_true, Bool.false_or, beq_iff_eq]
  split
  · next hzero => rw [hzero]
  · rfl

theorem fst_incrementLinked (c : Counter) (amount : Int) (rows : List Row) (cursor : Cursor) :
    (c.incrementLinked amount rows cursor).1 = c.increment amount := by
  unfold incrementLinked
  dsimp only
  split
  · rfl
  · split <;> rfl

/-- An increment for whose value the timeline has room takes the cursor along. -/
theorem InStep.incrementLinked (h : c.InStep rows ahead cursor) {amount : Int}
    (hfit : ((c.increment amount).value : Int) + ahead ≤ Row.cells rows - 1) :
    (c.incrementLinked amount rows cursor).1.InStep rows ahead
        (c.incrementLinked amount rows cursor).2.cursor ∧
      ((c.incrementLinked amount rows cursor).2.completed = true ↔
        ((c.incrementLinked amount rows cursor).1.value : Int) + ahead = Row.cells rows - 1) := by
  obtain ⟨hkind, hlinked, hin, hflat⟩ := h
  have hne : rows ≠ [] := by
    obtain ⟨i, -, hi, -⟩ := hin
    exact List.ne_nil_of_length_pos (by omega)
  rw [incrementLinked_of_stitch hkind hlinked]
  dsimp only
  -- the place to move to is between the ends of the timeline
  have hmove : Cursor.flat rows
      (cursor.advance rows ((c.increment amount).value - c.value)).cursor =
        (c.increment amount).value + ahead := by
    rw [Cursor.flat_advance hne, Cursor.clamp_of_inBounds hin, hflat]
    omega
  refine ⟨⟨?_, ?_, Cursor.inBounds_advance hne _ _, hmove⟩, ?_⟩
  · rw [kind_increment, hkind]
  · rw [linked_increment, hlinked]
  · rw [Cursor.completed_advance hne, hmove]

/-! ## Increments one after another -/

/-- What increments give, each of the counter and with the cursor that the one before it left. -/
def incrementsLinked (rows : List Row) : Counter → Cursor → List Int → List (Counter × Cursor.Move)
  | _, _, [] => []
  | c, cursor, amount :: amounts =>
    let next := c.incrementLinked amount rows cursor
    next :: incrementsLinked rows next.1 next.2.cursor amounts

/-- Each value is the one before with the amount added, or zero. -/
theorem values_incrementsLinked (c : Counter) (rows : List Row) (cursor : Cursor)
    (amounts : List Int) :
    (incrementsLinked rows c cursor amounts).map (fun next => (next.1.value : Int)) =
      (amounts.scanl (fun value amount => max 0 (value + amount)) (c.value : Int)).tail := by
  induction amounts generalizing c cursor with
  | nil => rfl
  | cons amount amounts ih =>
    have hvalue : ((c.incrementLinked amount rows cursor).1.value : Int) =
        max 0 (c.value + amount) := by
      rw [fst_incrementLinked, value_increment]
      omega
    rw [incrementsLinked, List.map_cons, ih, List.scanl_cons, List.tail_cons, hvalue]
    cases amounts with
    | nil => rfl
    | cons => rw [List.scanl_cons, List.tail_cons]

theorem InStep.incrementsLinked (h : c.InStep rows ahead cursor) {amounts : List Int}
    (hfit : ∀ next ∈ incrementsLinked rows c cursor amounts,
      (next.1.value : Int) + ahead ≤ Row.cells rows - 1) :
    ∀ next ∈ Counter.incrementsLinked rows c cursor amounts,
      next.1.InStep rows ahead next.2.cursor ∧
        (next.2.completed = true ↔ (next.1.value : Int) + ahead = Row.cells rows - 1) := by
  induction amounts generalizing c cursor with
  | nil => exact List.forall_mem_nil _
  | cons amount amounts ih =>
    obtain ⟨hone, hrest⟩ := List.forall_mem_cons.1 hfit
    rw [fst_incrementLinked] at hone
    have hstep := h.incrementLinked hone
    exact List.forall_mem_cons.2 ⟨hstep, ih hstep.1 hrest⟩

/-- A counter of stitches that is linked to a cursor beyond its value keeps the cursor as far beyond
it. An increment moves the cursor by the change in the value, which is never taken below zero. In
any sequence of increments for whose values the timeline has room, each value is the one before
with the amount added, or zero; after each increment the cursor is in the timeline, as far beyond
the value as at first, and the move is complete exactly if that is the last cell. -/
theorem in_step_with_cursor (h : c.InStep rows ahead cursor) :
    (∀ amount : Int, ((c.increment amount).value : Int) + ahead ≤ Row.cells rows - 1 →
      Cursor.flat rows (c.incrementLinked amount rows cursor).2.cursor - cursor.flat rows =
        max 0 (c.value + amount) - c.value) ∧
    ∀ amounts : List Int,
      (incrementsLinked rows c cursor amounts).map (fun next => (next.1.value : Int)) =
        (amounts.scanl (fun value amount => max 0 (value + amount)) (c.value : Int)).tail ∧
      ((∀ next ∈ incrementsLinked rows c cursor amounts,
          (next.1.value : Int) + ahead ≤ Row.cells rows - 1) →
        ∀ next ∈ incrementsLinked rows c cursor amounts,
          next.1.InStep rows ahead next.2.cursor ∧
            (next.2.completed = true ↔ (next.1.value : Int) + ahead = Row.cells rows - 1)) := by
  refine ⟨fun amount hfit => ?_, fun amounts => ⟨?_, h.incrementsLinked⟩⟩
  · obtain ⟨hnext, -⟩ := h.incrementLinked hfit
    rw [hnext.flat_eq, h.flat_eq, fst_incrementLinked, value_increment]
    omega
  · exact values_incrementsLinked c rows cursor amounts

/-- A counter one cell behind the cursor, in rows of which one has no cells: it is taken to the last
cell, back over the start of a row, below zero, and not at all. -/
theorem in_step_with_cursor_floored :
    let rows : List Row := [⟨0, 1, "", "Rnd 1", [⟨"k2", "Knit", 2⟩], 2, 2⟩,
      ⟨1, 2, "", "Rnd 2", [], 2, 2⟩, ⟨2, 3, "", "Rnd 3", [⟨"p3", "Purl", 3⟩], 2, 2⟩]
    let c : Counter := ⟨"s", .stitch, "Stitch", 1, [], true⟩
    let results := incrementsLinked rows c ⟨1, 0⟩ [3, -2, -9, -1, 1]
    c.InStep rows 1 ⟨1, 0⟩ ∧
      results.map (fun next => ((next.1.value : Int), next.2)) =
        [(4, ⟨⟨2, 2⟩, true⟩), (2, ⟨⟨2, 0⟩, false⟩), (0, ⟨⟨0, 1⟩, false⟩), (0, ⟨⟨0, 1⟩, false⟩),
          (1, ⟨⟨1, 0⟩, false⟩)] ∧
      ∀ next ∈ results, next.1.InStep rows 1 next.2.cursor ∧
        (next.2.completed = true ↔ (next.1.value : Int) + 1 = Row.cells rows - 1) := by
  intro rows c results
  have hstart : c.InStep rows 1 ⟨1, 0⟩ :=
    ⟨rfl, rfl, ⟨1, 0, by decide, by decide, rfl⟩, by decide⟩
  refine ⟨hstart, by decide, ?_⟩
  exact ((in_step_with_cursor hstart).2 [3, -2, -9, -1, 1]).2 (by decide)

end Counter

end KnitPattern
