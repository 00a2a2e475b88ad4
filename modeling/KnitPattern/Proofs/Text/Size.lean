/-
  Sizes of texts. A text has at most one piece more than characters, its lines hold no more
  characters than it has, and with one space between its words it is no longer than before.
-/
import KnitPattern.Proofs.Text.Lines
import KnitPattern.Proofs.Text.Spacing
import Mathlib.Algebra.GroupWithZero.Nat

namespace KnitPattern.Text

theorem length_splitOnP_le (p : Char → Bool) (s : List Char) :
    (s.splitOnP p).length ≤ s.length + 1 := by
  induction s using pieces_induction (p := p) with
  | one s hs =>
    rw [List.splitOnP_eq_singleton hs, List.length_singleton]
    omega
  | more s d t hs hd ih =>
    rw [List.splitOnP_append_cons s t hd, List.splitOnP_eq_singleton hs, List.length_append,
      List.length_append, List.length_singleton, List.length_cons]
    omega

/-- Texts with a character between them, and one character more. -/
theorem length_intercalate (c : Char) (l : List Char) (ls : List (List Char)) :
    ([c].intercalate (l :: ls)).length + 1 = ((l :: ls).map (·.length + 1)).sum := by
  induction ls generalizing l with
  | nil => simp
  | cons m ms ih =>
    rw [List.intercalate_cons_cons, List.length_append, List.length_append,
      List.length_singleton, Nat.add_assoc, ih m]
    rfl

/-- Every line ends with a character of its own, except for the last. -/
theorem sum_length_lines_le (s : List Char) :
    ((lines s).map (·.length + 1)).sum ≤ s.length + 1 := by
  fun_induction lines s with
  | case1 => exact Nat.zero_le _
  | case2 cs ih =>
    rw [List.map_cons, List.sum_cons, List.length_cons, List.length_cons, List.length_nil]
    omega
  | case3 c cs _ _ ih =>
    rw [List.map_cons, List.sum_cons, List.length_cons, List.length_nil]
    omega
  | case4 c cs =>
    rw [List.map_singleton, List.sum_singleton, List.length_singleton, List.length_cons]
    omega
  | case5 c cs _ _ l ls hcs ih =>
    rw [hcs, List.map_cons, List.sum_cons] at ih
    rw [List.map_cons, List.sum_cons, List.length_cons, List.length_cons]
    omega

theorem Squeezes.length_le {x v : List Char} (h : Squeezes x v) : v.length ≤ x.length := by
  induction h with
  | nil => exact Nat.zero_le _
  | char _ _ ih => exact Nat.succ_le_succ ih
  | gap hne _ _ ih =>
    have hgap := List.length_pos_iff.2 hne
    rw [List.length_cons, List.length_append]
    omega

theorem length_oneSpaced_le (s : List Char) : (oneSpaced s).length ≤ s.length :=
  Nat.le_trans (Squeezes.of_oneSpaced s).length_le (List.dropWhile_suffix _).length_le

end KnitPattern.Text
