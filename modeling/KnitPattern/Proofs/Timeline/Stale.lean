/-
  Cursors that are no longer in the timeline. What is shown at a cursor, and a move by cells, depend
  on the nearest place alone (`current?_clamp`, `advance_clamp`). A move by rows is counted from the
  row that the cursor names, though, and only then taken into the timeline, so from a row outside it
  may end elsewhere than from the nearest row; `LandsAlike` says when it does not.
-/
import KnitPattern.Proofs.Timeline.Linked

namespace KnitPattern

namespace Cursor

variable {rows : List Row} {c : Cursor} {size : Nat} {row offset : Int}

/-! ## The nearest place of the nearest place -/

theorem clamp_nil (c : Cursor) : c.clamp [] = {} := rfl

theorem clamp_clamp (rows : List Row) (c : Cursor) : (c.clamp rows).clamp rows = c.clamp rows := by
  cases rows with
  | nil => rfl
  | cons r rows => exact clamp_of_inBounds (inBounds_clamp (List.cons_ne_nil r rows) c)

theorem nearest_nearest (size : Nat) (i : Int) : nearest size (nearest size i) = nearest size i := by
  unfold nearest
  omega

theorem row_clamp (rows : List Row) (c : Cursor) :
    (c.clamp rows).row = nearest rows.length c.row := by
  cases rows with
  | nil => simp [clamp_nil, nearest]
  | cons r rows =>
    have hi := nearest_lt (List.length_pos_iff.2 (List.cons_ne_nil r rows)) c.row
    rw [clamp_eq hi rfl]

theorem row?_clamp (rows : List Row) (c : Cursor) : (c.clamp rows).row? rows = c.row? rows := by
  rw [row?, row_clamp, nearest_nearest]
  rfl

/-! ## What is shown, and moves by cells -/

theorem current?_clamp (rows : List Row) (c : Cursor) :
    (c.clamp rows).current? rows = c.current? rows := by
  unfold current?
  rw [row?_clamp]
  cases hrow : c.row? rows with
  | none => rfl
  | some r =>
    have hclamp : c.clamp rows = ⟨nearest rows.length c.row, nearest r.width c.stitch⟩ := by
      rw [clamp, hrow]
    show r.expanded[nearest r.width (c.clamp rows).stitch]? = r.expanded[nearest r.width c.stitch]?
    rw [hclamp, nearest_nearest]

theorem advance_clamp (rows : List Row) (c : Cursor) (amount : Int) :
    (c.clamp rows).advance rows amount = c.advance rows amount := by
  unfold advance
  rw [clamp_clamp, row_clamp, nearest_nearest]

/-! ## Moves by rows -/

/-- From a row, a move by rows ends in the row in which it ends from the nearest one of `size` rows:
the row is one of them, or the move leads away from them or across all of them, or there are not
two rows to end in. -/
def LandsAlike (size : Nat) (row offset : Int) : Prop :=
  size ≤ 1 ∨ (0 ≤ row ∧ row < size) ∨
    (row < 0 ∧ (offset ≤ 0 ∨ (size : Int) - 1 ≤ row + offset)) ∨
    ((size : Int) ≤ row ∧ (0 ≤ offset ∨ row + offset ≤ 0))

instance (size : Nat) (row offset : Int) : Decidable (LandsAlike size row offset) :=
  inferInstanceAs (Decidable (_ ∨ _))

theorem landsAlike_iff : LandsAlike size row offset ↔
    nearest size (nearest size row + offset) = nearest size (row + offset) := by
  unfold LandsAlike nearest
  omega

theorem landsAlike_zero (size : Nat) (row : Int) : LandsAlike size row 0 := by
  rw [landsAlike_iff, Int.add_zero, Int.add_zero, nearest_nearest]

/-- A move by rows ends at the first cell of a row. -/
theorem moveRows_eq_moveTo (rows : List Row) (c : Cursor) (offset : Int) :
    c.moveRows rows offset = moveTo rows ⟨nearest rows.length (c.row + offset), 0⟩ := by
  have hclamp : clamp rows ⟨c.row + offset, 0⟩ =
      clamp rows ⟨nearest rows.length (c.row + offset), 0⟩ := by
    unfold clamp row?
    rw [nearest_nearest]
  rw [moveRows, moveTo, moveTo, hclamp]

theorem cursor_moveRows (hne : rows ≠ []) (c : Cursor) (offset : Int) :
    (c.moveRows rows offset).cursor = ⟨nearest rows.length (c.row + offset), 0⟩ := by
  have hi := nearest_lt (List.length_pos_iff.2 hne) (c.row + offset)
  show clamp rows ⟨c.row + offset, 0⟩ = _
  rw [clamp_eq hi rfl]
  exact congrArg (fun n : Nat => (⟨_, n⟩ : Cursor)) (nearest_of_lt (Row.width_pos _))

theorem moveRows_clamp_eq_iff (rows : List Row) (c : Cursor) (offset : Int) :
    (c.clamp rows).moveRows rows offset = c.moveRows rows offset ↔
      LandsAlike rows.length c.row offset := by
  rw [landsAlike_iff]
  constructor
  · intro hmove
    cases rows with
    | nil => simp [nearest]
    | cons r rows =>
      have hcursor := congrArg Move.cursor hmove
      rw [cursor_moveRows (List.cons_ne_nil r rows), cursor_moveRows (List.cons_ne_nil r rows),
        row_clamp] at hcursor
      exact Int.ofNat.inj (congrArg Cursor.row hcursor)
  · intro hsame
    rw [moveRows_eq_moveTo, moveRows_eq_moveTo, row_clamp, hsame]

/-- A linked counter moves the cursor by rows only if it counts rows. -/
theorem incrementLinked_clamp_eq_iff (counter : Counter) (amount : Int) (rows : List Row)
    (c : Cursor) :
    counter.incrementLinked amount rows (c.clamp rows) = counter.incrementLinked amount rows c ↔
      (counter.linked = true → counter.kind = .row →
        LandsAlike rows.length c.row ((counter.increment amount).value - counter.value)) := by
  unfold Counter.incrementLinked
  dsimp only
  rw [advance_clamp, advance_clamp]
  by_cases hstays :
      (!counter.linked || ((counter.increment amount).value : Int) - counter.value == 0) = true
  · rw [if_pos hstays, if_pos hstays]
    refine ⟨fun _ hlinked _ => ?_, fun _ => rfl⟩
    have hzero : ((counter.increment amount).value : Int) - counter.value = 0 := by
      simpa [hlinked] using hstays
    rw [hzero]
    exact landsAlike_zero _ _
  · rw [if_neg hstays, if_neg hstays]
    have hlinked : counter.linked = true := by
      cases hlinked : counter.linked with
      | true => rfl
      | false => simp [hlinked] at hstays
    cases hkind : counter.kind with
    | stitch => exact ⟨fun _ _ => nofun, fun _ => rfl⟩
    | row =>
      rw [Prod.mk.injEq, moveRows_clamp_eq_iff]
      exact ⟨fun h _ _ => h.2, fun h => ⟨rfl, h hlinked rfl⟩⟩

/-- What is shown at a cursor and where it goes by cells is as at the nearest place of the timeline,
wherever the cursor is. By rows, also with a linked counter of rows, it goes where it would from the
nearest place just if `LandsAlike` holds of the row it names: only then it ends as many rows away
from the row that is shown as it was asked to, as far as there are rows. -/
theorem stale_as_nearest (rows : List Row) (c : Cursor) :
    (∀ amount, (c.clamp rows).advance rows amount = c.advance rows amount) ∧
    (c.clamp rows).current? rows = c.current? rows ∧
    (∀ offset, (c.clamp rows).moveRows rows offset = c.moveRows rows offset ↔
      LandsAlike rows.length c.row offset) ∧
    (∀ (counter : Counter) amount,
      counter.incrementLinked amount rows (c.clamp rows) =
          counter.incrementLinked amount rows c ↔
        (counter.linked = true → counter.kind = .row →
          LandsAlike rows.length c.row ((counter.increment amount).value - counter.value))) ∧
    (rows ≠ [] → c.row? rows = rows[(c.clamp rows).row.toNat]? ∧
      ∀ offset, (c.moveRows rows offset).cursor =
          ⟨min (max ((c.clamp rows).row + offset) 0) ((rows.length : Int) - 1), 0⟩ ↔
        LandsAlike rows.length c.row offset) := by
  refine ⟨advance_clamp rows c, current?_clamp rows c, moveRows_clamp_eq_iff rows c,
    fun counter amount => incrementLinked_clamp_eq_iff counter amount rows c,
    fun hne => ⟨?shown, fun offset => ?away⟩⟩
  case shown => rw [row_clamp, Int.toNat_natCast, row?]
  case away =>
    have hpos := List.length_pos_iff.2 hne
    rw [cursor_moveRows hne, row_clamp, landsAlike_iff, Cursor.mk.injEq]
    unfold nearest
    omega

/-- Two rows are left of nine, and the cursor is in the eighth: what it shows and a move by cells
are as at the end of the second row, and so is a move on by rows, or back by seven. -/
theorem stale_as_nearest_of_shortened :
    let rows : List Row := [⟨0, 1, "", "Rnd 1", [⟨"k2", "Knit", 2⟩], 2, 2⟩,
      ⟨1, 2, "", "Rnd 2", [⟨"p3", "Purl", 3⟩], 2, 2⟩]
    let c : Cursor := ⟨7, 4⟩
    rows ≠ [] ∧ c.clamp rows = ⟨1, 2⟩ ∧
      (c.clamp rows).advance rows (-3) = c.advance rows (-3) ∧
      (LandsAlike rows.length c.row 1 ∧
        (c.clamp rows).moveRows rows 1 = c.moveRows rows 1) ∧
      LandsAlike rows.length c.row (-7) ∧
        (c.moveRows rows (-7)).cursor =
          ⟨min (max ((c.clamp rows).row + -7) 0) ((rows.length : Int) - 1), 0⟩ := by
  intro rows c
  have hne : rows ≠ [] := List.cons_ne_nil _ _
  obtain ⟨hadvance, -, hmove, -, haway⟩ := stale_as_nearest rows c
  have hone : LandsAlike rows.length c.row 1 := by decide
  have hseven : LandsAlike rows.length c.row (-7) := by decide
  exact ⟨hne, by decide, hadvance (-3), ⟨hone, (hmove 1).2 hone⟩, hseven,
    ((haway hne).2 (-7)).2 hseven⟩

/-- Three rows are left, and the cursor is in the eleventh: one row back, it stays in the last one,
which is the row that is shown, and so it does with a linked counter of rows. -/
theorem stale_row_stays :
    let rows : List Row := [⟨0, 1, "s", "Rnd 1", [⟨"k", "Knit", 1⟩, ⟨"k", "Knit", 1⟩], 1, 1⟩,
      ⟨1, 2, "s", "Rnd 2", [⟨"k", "Knit", 1⟩, ⟨"k", "Knit", 1⟩], 1, 1⟩,
      ⟨2, 3, "s", "Rnd 3", [⟨"k", "Knit", 1⟩, ⟨"k", "Knit", 1⟩], 1, 1⟩]
    let c : Cursor := ⟨10, 0⟩
    let counter : Counter := ⟨"r", .row, "Row", 5, [], true⟩
    c.clamp rows = ⟨2, 0⟩ ∧
      ((c.clamp rows).moveRows rows (-1)).cursor = ⟨1, 0⟩ ∧
      (c.moveRows rows (-1)).cursor = ⟨2, 0⟩ ∧
      (counter.incrementLinked (-1) rows (c.clamp rows)).2.cursor = ⟨1, 0⟩ ∧
      (counter.incrementLinked (-1) rows c).2.cursor = ⟨2, 0⟩ := by
  decide

end Cursor

end KnitPattern
