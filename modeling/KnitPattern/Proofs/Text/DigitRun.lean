/-
  Runs of digits. What stands in a text has no runs that the text does not have, and putting
  pieces together with another character between them makes no new run
  (`DigitsWithin.intercalate`); so leaving one space between the words of a text adds no run of
  digits to it.
-/
import KnitPattern.Proofs.Text.Pieces
import KnitPattern.Text.Blank
import KnitPattern.Text.Digit

namespace KnitPattern.Text

/-- Digits that stand next to each other in a text. -/
def DigitRun (ds s : List Char) : Prop :=
  (∀ c ∈ ds, isDigit c = true) ∧ ds <:+: s

/-- All runs of digits of the first text are runs of the second. -/
def DigitsWithin (s t : List Char) : Prop :=
  ∀ ds, DigitRun ds s → DigitRun ds t

variable {s t u : List Char}

/-! ## Pieces of a text -/

namespace DigitRun

variable {ds : List Char}

theorem of_isInfix (h : s <:+: t) (hds : DigitRun ds s) : DigitRun ds t :=
  ⟨hds.1, hds.2.trans h⟩

theorem length_le (hds : DigitRun ds s) : ds.length ≤ s.length :=
  hds.2.length_le

end DigitRun

namespace DigitsWithin

theorem of_isInfix (h : s <:+: t) : DigitsWithin s t :=
  fun _ hds => hds.of_isInfix h

theorem trans (hst : DigitsWithin s t) (htu : DigitsWithin t u) : DigitsWithin s u :=
  fun ds hds => htu ds (hst ds hds)

end DigitsWithin

/-! ## Pieces put together -/

/-- A piece without a character stands on one of the two sides of it. -/
theorem infix_or_infix_of_not_mem {α : Type} {ds a b : List α} {c : α} (hc : c ∉ ds)
    (h : ds <:+: a ++ c :: b) : ds <:+: a ∨ ds <:+: b := by
  obtain ⟨v, w, h⟩ := h
  rw [List.append_assoc] at h
  rcases List.append_eq_append_iff.1 h with ⟨x, rfl, hx⟩ | ⟨x, rfl, hx⟩
  · -- the piece begins before the character, so it ends before it
    rcases List.append_eq_append_iff.1 hx with ⟨y, rfl, -⟩ | ⟨y, rfl, hy⟩
    · exact .inl ⟨v, y, by simp⟩
    · cases y with
      | nil => exact .inl ⟨v, [], by simp⟩
      | cons d y =>
        obtain ⟨rfl, -⟩ := List.cons.inj hy
        exact absurd (List.mem_append_right _ List.mem_cons_self) hc
  · cases x with
    | nil =>
      cases ds with
      | nil => exact .inl List.nil_infix
      | cons d ds =>
        obtain ⟨rfl, -⟩ := List.cons.inj hx
        exact absurd List.mem_cons_self hc
    | cons d x =>
      obtain ⟨-, rfl⟩ := List.cons.inj hx
      exact .inr ⟨x, w, by simp⟩

namespace DigitsWithin

theorem append_cons {c : Char} (hc : isDigit c = false) (hs : DigitsWithin s u)
    (ht : DigitsWithin t u) : DigitsWithin (s ++ c :: t) u := by
  intro ds hds
  have hnot : c ∉ ds := fun h => by
    rw [hds.1 c h] at hc
    cases hc
  rcases infix_or_infix_of_not_mem hnot hds.2 with h | h
  · exact hs ds ⟨hds.1, h⟩
  · exact ht ds ⟨hds.1, h⟩

theorem intercalate {c : Char} (hc : isDigit c = false) {ls : List (List Char)}
    (h : ∀ l ∈ ls, DigitsWithin l u) : DigitsWithin ([c].intercalate ls) u := by
  induction ls with
  | nil => exact of_isInfix List.nil_infix
  | cons l ls ih =>
    obtain ⟨hl, hls⟩ := List.forall_mem_cons.1 h
    cases ls with
    | nil => rwa [List.intercalate_singleton]
    | cons m ms =>
      rw [List.intercalate_cons_cons, List.append_assoc, List.singleton_append]
      exact append_cons hc hl (ih hls)

theorem oneSpaced (s : List Char) : DigitsWithin (oneSpaced s) s := by
  refine intercalate (by decide +kernel) fun w hw => ?_
  exact of_isInfix (infix_of_mem_splitOnP (List.mem_filter.1 hw).1)

end DigitsWithin

end KnitPattern.Text
