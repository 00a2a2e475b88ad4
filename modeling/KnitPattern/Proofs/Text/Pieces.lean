/-
  A text and its pieces between the characters of a class. A text is either one piece or a
  first piece, a character of the class and a shorter text, and what is shown of texts cut in
  this way is shown along that recursion (`pieces_induction`).
-/
import Mathlib.Data.List.Basic

namespace KnitPattern.Text

variable {p : Char → Bool}

/-- A text is one piece, or a first piece, a character of the class and the other pieces. -/
theorem pieces_induction {P : List Char → Prop} (one : ∀ s, (∀ c ∈ s, p c = false) → P s)
    (more : ∀ s d t, (∀ c ∈ s, p c = false) → p d = true → P t → P (s ++ d :: t))
    (s : List Char) : P s := by
  -- `u` is what has been read of the piece that is open
  have key : ∀ s u, (∀ c ∈ u, p c = false) → P (u ++ s) := by
    intro s
    induction s with
    | nil =>
      intro u hu
      rw [List.append_nil]
      exact one u hu
    | cons c s ih =>
      intro u hu
      cases hc : p c with
      | true =>
        refine more u c s hu hc ?_
        exact ih [] (List.forall_mem_nil _)
      | false =>
        rw [List.append_cons]
        refine ih (u ++ [c]) ?_
        rw [List.forall_mem_append, List.forall_mem_singleton]
        exact ⟨hu, hc⟩
  exact key s [] (List.forall_mem_nil _)

/-- No character of the class is in a piece. -/
theorem not_of_mem_splitOnP {s w : List Char} (hw : w ∈ s.splitOnP p) :
    ∀ c ∈ w, p c = false := by
  induction s using pieces_induction (p := p) with
  | one s hs =>
    rw [List.splitOnP_eq_singleton hs, List.mem_singleton] at hw
    rwa [hw]
  | more s d t hs hd ih =>
    rw [List.splitOnP_append_cons s t hd, List.splitOnP_eq_singleton hs] at hw
    rcases List.mem_append.1 hw with hw | hw
    · rwa [List.mem_singleton.1 hw]
    · exact ih hw

/-- A piece stands in the text. -/
theorem infix_of_mem_splitOnP {s w : List Char} (hw : w ∈ s.splitOnP p) :
    w <:+: s := by
  induction s using pieces_induction (p := p) with
  | one s hs =>
    rw [List.splitOnP_eq_singleton hs, List.mem_singleton] at hw
    exact hw ▸ List.infix_rfl
  | more s d t hs hd ih =>
    rw [List.splitOnP_append_cons s t hd, List.splitOnP_eq_singleton hs] at hw
    rcases List.mem_append.1 hw with hw | hw
    · exact List.mem_singleton.1 hw ▸ (List.prefix_append s _).isInfix
    · exact (ih hw).trans ⟨s ++ [d], [], by simp⟩

/-! ## Pieces put together -/

/-- A list of pieces with a piece in between: the first piece, and each other one with the piece in
between in front. -/
theorem intercalate_cons_eq_append_flatMap {α : Type} (sep a : List α) (as : List (List α)) :
    sep.intercalate (a :: as) = a ++ as.flatMap (sep ++ ·) := by
  induction as generalizing a with
  | nil => simp
  | cons b as ih =>
    rw [List.intercalate_cons_cons, ih, List.flatMap_cons, List.append_assoc, List.append_assoc]

end KnitPattern.Text
