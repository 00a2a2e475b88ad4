/-
  Moving a cursor is arithmetic on the count of cells. Passing a row leaves the count as it is
  (`flat_next`), and the search for the row to move to only passes rows, in one direction, until
  the place is in its row or the rows end (`settled_forward`, `settled_backward`). So a move adds
  its amount to the count, up to the two ends of the timeline (`flat_advance`), and moves by one
  cell go through the timeline from its first cell to its last (`flat_walk`).
-/
import KnitPattern.Proofs.Reading.Halts
import KnitPattern.Proofs.Timeline.Place

namespace KnitPattern

namespace Cursor

variable {rows : List Row}

/-! ## Passing rows -/

/-- A place counted on from a row is counted on from the next one, behind the cells of the row. -/
theorem flat_next {i : Nat} (hi : i < rows.length) (k : Int) :
    flat rows ⟨(i + 1 : Nat), k - rows[i].width⟩ = flat rows ⟨i, k⟩ := by
  have htake := Row.cells_take_succ hi
  show ((Row.cells (rows.take (i + 1)) : Nat) : Int) + (k - rows[i].width) =
    ((Row.cells (rows.take i) : Nat) : Int) + k
  omega

theorem forward_drop {i : Nat} (hi : i + 1 < rows.length) (k : Int) :
    forward (rows.drop i) k =
      if (rows[i].width : Int) ≤ k then
        ((forward (rows.drop (i + 1)) (k - rows[i].width)).1 + 1,
          (forward (rows.drop (i + 1)) (k - rows[i].width)).2)
      else (0, k) := by
  rw [List.drop_eq_getElem_cons (by omega), List.drop_eq_getElem_cons hi, forward]

theorem forward_drop_last {i : Nat} (hi : i + 1 = rows.length) (k : Int) :
    forward (rows.drop i) k = (0, k) := by
  have hone : rows.drop i = [rows[i]] := by
    rw [List.drop_eq_getElem_cons (by omega), hi, List.drop_length]
  rw [hone]
  rfl

theorem backward_take {i : Nat} (hi : i < rows.length) (k : Int) :
    backward (rows.take (i + 1)).reverse k =
      if k < 0 then
        ((backward (rows.take i).reverse (k + rows[i].width)).1 + 1,
          (backward (rows.take i).reverse (k + rows[i].width)).2)
      else (0, k) := by
  rw [List.take_succ_eq_append_getElem hi, List.reverse_append, List.reverse_singleton,
    List.singleton_append, backward]

/-- A place behind the start of a row is taken to the row it lies in, or to the last row. -/
theorem settled_forward {i : Nat} (hi : i < rows.length) {k : Int} (hk : 0 ≤ k) :
    Settled rows (i + (forward (rows.drop i) k).1) (forward (rows.drop i) k).2 ∧
      flat rows ⟨(i + (forward (rows.drop i) k).1 : Nat), (forward (rows.drop i) k).2⟩ =
        flat rows ⟨i, k⟩ := by
  -- along the rows that are left
  induction hn : rows.length - i generalizing i k with
  | zero => omega
  | succ n ih =>
    by_cases hlast : i + 1 = rows.length
    · rw [forward_drop_last hlast]
      exact ⟨⟨hi, .inl hk, .inr hlast⟩, rfl⟩
    · have hnext : i + 1 < rows.length := by omega
      rw [forward_drop hnext]
      split
      · next hle =>
        have hrest : 0 ≤ k - rows[i].width := Int.sub_nonneg.2 hle
        obtain ⟨hsettled, hflat⟩ := ih hnext hrest (by omega)
        rw [flat_next hi] at hflat
        rw [Nat.add_right_comm] at hsettled hflat
        exact ⟨hsettled, hflat⟩
      · next hlt => exact ⟨⟨hi, .inl hk, .inl (Int.not_le.1 hlt)⟩, rfl⟩

/-- A place before the end of a row is taken to the row it lies in, or to the first row. -/
theorem settled_backward {i : Nat} (hi : i < rows.length) {k : Int} (hk : k < rows[i].width) :
    (backward (rows.take i).reverse k).1 ≤ i ∧
      Settled rows (i - (backward (rows.take i).reverse k).1)
        (backward (rows.take i).reverse k).2 ∧
      flat rows ⟨(i - (backward (rows.take i).reverse k).1 : Nat),
        (backward (rows.take i).reverse k).2⟩ = flat rows ⟨i, k⟩ := by
  induction i generalizing k with
  | zero => exact ⟨Nat.le_refl 0, ⟨hi, .inr rfl, .inl hk⟩, rfl⟩
  | succ i ih =>
    have hi' : i < rows.length := by omega
    rw [backward_take hi']
    split
    · next hneg =>
      have hbefore : k + rows[i].width < rows[i].width := by omega
      obtain ⟨hle, hsettled, hflat⟩ := ih hi' hbefore
      rw [← flat_next hi', Int.add_sub_cancel] at hflat
      rw [← Nat.add_sub_add_right _ 1] at hsettled hflat
      exact ⟨Nat.succ_le_succ hle, hsettled, hflat⟩
    · next hnonneg => exact ⟨Nat.zero_le _, ⟨hi, .inl (Int.not_lt.1 hnonneg), .inl hk⟩, rfl⟩

/-! ## One move -/

/-- A move goes to the nearest place of a place that is settled in its row, and that is counted
from the cursor by the amount of the move. -/
theorem advance_eq_moveTo (hne : rows ≠ []) (c : Cursor) (amount : Int) :
    ∃ i k, Settled rows i k ∧ flat rows ⟨i, k⟩ = flat rows (c.clamp rows) + amount ∧
      c.advance rows amount = moveTo rows ⟨i, k⟩ := by
  obtain ⟨i, j, hi, hj, hclamp⟩ := inBounds_clamp hne c
  have hrow : nearest rows.length c.row = i := by
    have h := nearest_lt (List.length_pos_iff.2 hne) c.row
    rw [clamp_eq h rfl] at hclamp
    exact Int.ofNat.inj (congrArg Cursor.row hclamp)
  have hflat : flat rows ⟨i, j + amount⟩ = flat rows (c.clamp rows) + amount := by
    rw [hclamp]
    show ((Row.cells (rows.take i) : Nat) : Int) + (j + amount) =
      ((Row.cells (rows.take i) : Nat) : Int) + j + amount
    omega
  have hstitch : (c.clamp rows).stitch = j := by
    rw [hclamp]
  unfold advance
  dsimp only
  rw [hrow, hstitch]
  split
  · next hneg =>
    have hwidth : (j : Int) + amount < rows[i].width := by omega
    obtain ⟨hle, hsettled, hsame⟩ := settled_backward hi hwidth
    rw [Int.ofNat_sub hle] at hsame
    refine ⟨_, _, hsettled, ?_, ?_⟩
    · rw [Int.ofNat_sub hle, hsame, hflat]
    · rw [Int.ofNat_sub hle]
  · next hnonneg =>
    obtain ⟨hsettled, hsame⟩ := settled_forward hi (Int.not_lt.1 hnonneg)
    exact ⟨_, _, hsettled, hsame.trans hflat, rfl⟩

variable (hne : rows ≠ [])
include hne

theorem inBounds_advance (c : Cursor) (amount : Int) :
    (c.advance rows amount).cursor.InBounds rows := by
  obtain ⟨i, k, -, -, hmove⟩ := advance_eq_moveTo hne c amount
  rw [hmove]
  exact inBounds_clamp hne _

theorem flat_advance (c : Cursor) (amount : Int) :
    flat rows (c.advance rows amount).cursor =
      min (max (flat rows (c.clamp rows) + amount) 0) (Row.cells rows - 1) := by
  obtain ⟨i, k, hsettled, hflat, hmove⟩ := advance_eq_moveTo hne c amount
  rw [hmove, ← hflat]
  exact flat_clamp hsettled

theorem completed_advance (c : Cursor) (amount : Int) :
    (c.advance rows amount).completed = true ↔
      flat rows (c.advance rows amount).cursor = Row.cells rows - 1 := by
  obtain ⟨i, k, -, -, hmove⟩ := advance_eq_moveTo hne c amount
  rw [hmove]
  exact isComplete_iff (inBounds_clamp hne _)

/-! ## Moves by one cell -/

omit hne in
/-- Where a cursor is that starts at the first cell of the first row, after `n` moves by one
cell. -/
def walk (rows : List Row) : Nat → Cursor
  | 0 => {}
  | n + 1 => ((walk rows n).advance rows 1).cursor

theorem inBounds_walk (n : Nat) : (walk rows n).InBounds rows := by
  cases n with
  | zero => exact ⟨0, 0, List.length_pos_iff.2 hne, Row.width_pos _, rfl⟩
  | succ n => exact inBounds_advance hne _ 1

theorem flat_walk (n : Nat) : flat rows (walk rows n) = min n (Row.cells rows - 1 : Nat) := by
  have hpos := Row.cells_pos hne
  induction n with
  | zero =>
    show ((Row.cells (rows.take 0) : Nat) : Int) + 0 = _
    rw [List.take_zero]
    show (0 : Int) = _
    omega
  | succ n ih =>
    show flat rows ((walk rows n).advance rows 1).cursor = _
    rw [flat_advance hne, clamp_of_inBounds (inBounds_walk hne n), ih]
    omega

/-- The walk comes to every place of the timeline, and once before it ends. -/
theorem existsUnique_walk {c : Cursor} (h : c.InBounds rows) :
    ∃! n, n < Row.cells rows ∧ walk rows n = c := by
  have hnonneg := h.flat_nonneg
  have hlt := h.flat_lt
  refine ⟨(flat rows c).toNat, ⟨by omega, ?_⟩, ?_⟩
  · apply eq_of_flat_eq (inBounds_walk hne _) h
    rw [flat_walk hne]
    omega
  · rintro n ⟨hn, rfl⟩
    have := flat_walk hne n
    omega

theorem isComplete_walk (n : Nat) :
    (walk rows n).isComplete rows = true ↔ Row.cells rows ≤ n + 1 := by
  have hpos := Row.cells_pos hne
  rw [isComplete_iff (inBounds_walk hne n), flat_walk hne]
  omega

theorem map_current?_walk (hrows : ∀ r ∈ rows, r.expanded ≠ []) :
    (List.range (Row.cells rows)).map (fun n => current? rows (walk rows n)) =
      (rows.flatMap Row.expanded).map some := by
  refine List.ext_getElem? fun n => ?_
  rw [List.getElem?_map, List.getElem?_map]
  have hlen := Row.cells_eq_length hrows
  rcases Nat.lt_or_ge n (Row.cells rows) with hn | hn
  · have hflat : (flat rows (walk rows n)).toNat = n := by
      rw [flat_walk hne]
      omega
    have hlt : n < (rows.flatMap Row.expanded).length := by omega
    have hcurrent := current?_eq_getElem? hrows (inBounds_walk hne n)
    rw [hflat, List.getElem?_eq_getElem hlt] at hcurrent
    rw [List.getElem?_range hn, List.getElem?_eq_getElem hlt]
    exact congrArg some hcurrent
  · rw [List.getElem?_eq_none (by rw [List.length_range]; exact hn),
      List.getElem?_eq_none (by omega)]
    rfl

end Cursor

/-- The rows of a pattern have cells. -/
theorem Pattern.expanded_ne_nil {text : String} {settings : Settings} {heuristics : Heuristics}
    {glossary : Option Glossary} {starting : Option Int} {pat : Pattern}
    (h : ofText text settings heuristics glossary starting = .ok pat) :
    ∀ r ∈ pat.rows, r.expanded ≠ [] := by
  obtain ⟨e, last, -, hrun, rfl⟩ := ofText_eq_ok_iff.1 h
  intro r hr
  obtain ⟨-, hsteps, hcounts⟩ := Progress.wellFormed_of_run (List.forall_mem_nil _) hrun r hr
  obtain ⟨s, steps, hseq⟩ := List.exists_cons_of_ne_nil hsteps
  have hs : 1 ≤ s.count := hcounts s (by rw [hseq]; exact List.mem_cons_self)
  intro hnil
  have hlen := r.length_expanded
  rw [hnil, Row.total, hseq, List.map_cons, List.foldr_cons, List.length_nil] at hlen
  omega

namespace Cursor

/-- Moving a cursor is arithmetic on the cells of all rows. From any place, also one outside of
the timeline, a move by any amount ends in bounds, adds the amount to the count of the nearest
place as far as the timeline goes, and is complete at the last cell. Moves by one cell from the
first one come to every place once and are complete as soon as they are at the last. Where no
row is empty, as in every pattern, the cell at the cursor is the one of its count in the
timelines of all rows put one after another, and moves by one cell show these in order. -/
theorem advance_counts_cells {rows : List Row} (hne : rows ≠ []) :
    (∀ (c : Cursor) amount,
      (c.advance rows amount).cursor.InBounds rows ∧
      flat rows (c.advance rows amount).cursor =
        min (max (flat rows (c.clamp rows) + amount) 0) (Row.cells rows - 1) ∧
      ((c.advance rows amount).completed = true ↔
        flat rows (c.advance rows amount).cursor = Row.cells rows - 1)) ∧
    (∀ c, InBounds rows c → ∃! n, n < Row.cells rows ∧ walk rows n = c) ∧
    (∀ n, flat rows (walk rows n) = min n (Row.cells rows - 1 : Nat) ∧
      ((walk rows n).isComplete rows = true ↔ Row.cells rows ≤ n + 1) ∧
      ((walk rows n).advance rows 1).completed = (walk rows (n + 1)).isComplete rows) ∧
    ((∀ r ∈ rows, r.expanded ≠ []) →
      (∀ (c : Cursor) amount, current? rows (c.advance rows amount).cursor =
        (rows.flatMap Row.expanded)[(flat rows (c.advance rows amount).cursor).toNat]?) ∧
      Row.cells rows = (rows.flatMap Row.expanded).length ∧
      (List.range (Row.cells rows)).map (fun n => current? rows (walk rows n)) =
        (rows.flatMap Row.expanded).map some) ∧
    (∀ text settings heuristics glossary starting pat,
      Pattern.ofText text settings heuristics glossary starting = .ok pat → pat.rows = rows →
        ∀ r ∈ rows, r.expanded ≠ []) := by
  refine ⟨fun c amount => ?_, fun c => existsUnique_walk hne, fun n => ?_, fun hrows => ?_, ?_⟩
  · exact ⟨inBounds_advance hne c amount, flat_advance hne c amount,
      completed_advance hne c amount⟩
  · obtain ⟨i, k, -, -, hmove⟩ := advance_eq_moveTo hne (walk rows n) 1
    refine ⟨flat_walk hne n, isComplete_walk hne n, ?_⟩
    rw [walk, hmove]
    rfl
  · exact ⟨fun c amount => current?_eq_getElem? hrows (inBounds_advance hne c amount),
      Row.cells_eq_length hrows, map_current?_walk hne hrows⟩
  · rintro text settings heuristics glossary starting pat hpat rfl
    exact Pattern.expanded_ne_nil hpat

/-- A row without cells between two others, with a cursor outside of the timeline, and the cells
of a pattern one by one. -/
theorem advance_counts_cells_of_rows :
    let rows : List Row := [⟨0, 1, "", "Rnd 1", [⟨"k2", "Knit", 2⟩], 2, 2⟩,
      ⟨1, 2, "", "Rnd 2", [], 2, 2⟩, ⟨2, 3, "", "Rnd 3", [⟨"p3", "Purl", 3⟩], 2, 2⟩]
    (rows ≠ [] ∧ flat rows ((⟨9, -4⟩ : Cursor).advance rows (-2)).cursor = 1 ∧
      (walk rows 4).isComplete rows = false ∧ (walk rows 5).isComplete rows = true) ∧
    ∃ pat, Pattern.ofText "Rnd 2: yo\nRnd 1: k2, p" = .ok pat ∧ pat.rows ≠ [] ∧
      (∀ r ∈ pat.rows, r.expanded ≠ []) ∧
      (pat.rows.flatMap Row.expanded).map Step.code = ["k2", "k2", "p", "yo"] ∧
      (List.range 4).map (fun n => current? pat.rows (walk pat.rows n)) =
        (pat.rows.flatMap Row.expanded).map some := by
  intro rows
  have hne : rows ≠ [] := List.cons_ne_nil _ _
  obtain ⟨hmoves, -, hwalk, -, -⟩ := advance_counts_cells hne
  refine ⟨⟨hne, ?_, ?_, ?_⟩, ?_⟩
  · have hflat := (hmoves ⟨9, -4⟩ (-2)).2.1
    rw [hflat]
    decide
  · rw [Bool.eq_false_iff, ne_eq, (hwalk 4).2.1]
    decide
  · rw [(hwalk 5).2.1]
    decide
  · have hread : (Pattern.ofText "Rnd 2: yo\nRnd 1: k2, p").toOption.map
        (fun pat => (pat.rows.flatMap Row.expanded).map Step.code) =
        some ["k2", "k2", "p", "yo"] := by
      decide +kernel
    cases h : Pattern.ofText "Rnd 2: yo\nRnd 1: k2, p" with
    | error why =>
      rw [h] at hread
      cases hread
    | ok pat =>
      rw [h] at hread
      have hcodes : (pat.rows.flatMap Row.expanded).map Step.code = ["k2", "k2", "p", "yo"] :=
        Option.some.inj hread
      have hsome : pat.rows ≠ [] := by
        intro hnil
        rw [hnil] at hcodes
        cases hcodes
      obtain ⟨-, -, -, hcells, hpatterns⟩ := advance_counts_cells hsome
      have hrows := hpatterns _ _ _ _ _ pat h rfl
      obtain ⟨-, hlen, hshown⟩ := hcells hrows
      have hfour : Row.cells pat.rows = 4 := by
        have hlist := congrArg List.length hcodes
        rw [List.length_map] at hlist
        rw [hlen, hlist]
        rfl
      rw [hfour] at hshown
      exact ⟨pat, rfl, hsome, hrows, hcodes, hshown⟩

end Cursor

end KnitPattern
