/-
  What is left of a text when everything but its letters is taken away, and the first of its
  digits. Both are read piece by piece (`lettering_append`, `List.find?_append`): a word leaves
  the letters it is spelled with, and a gap or a numeral leaves none.
-/
import KnitPattern.Proofs.Text.Phrase

namespace KnitPattern.Text

/-! ## The letters of a text -/

/-- The letters of a text as small letters, without anything between them. -/
def lettering (s : List Char) : List Char :=
  (s.map foldCase).filter Char.isLower

@[simp] theorem lettering_append (s t : List Char) :
    lettering (s ++ t) = lettering s ++ lettering t := by
  rw [lettering, List.map_append, List.filter_append]
  rfl

/-- A text of a class without letters. -/
theorem lettering_eq_nil {p : Char → Bool} (hp : ∀ c, isCased c = true → p c = false)
    {s : List Char} (h : ∀ c ∈ s, p c = true) : lettering s = [] := by
  refine List.filter_eq_nil_iff.2 fun l hl hlow => ?_
  obtain ⟨c, hc, rfl⟩ := List.mem_map.1 hl
  have hnot := hp c (isCased_of_foldCase hlow rfl)
  rw [h c hc] at hnot
  cases hnot

theorem lettering_eq_of_map {s : List Char} {w : String} (h : s.map foldCase = w.toList) :
    lettering s = w.toList.filter Char.isLower := by
  rw [lettering, h]

theorem Spelled.lettering_eq {w : String} (s : Spelled w) :
    lettering s.1 = w.toList.filter Char.isLower :=
  lettering_eq_of_map s.2

theorem SpelledIn.exists_lettering_eq {ws : List String} (s : SpelledIn ws) :
    ∃ w ∈ ws, lettering s.1 = w.toList.filter Char.isLower := by
  obtain ⟨s, w, hw, hs⟩ := s
  exact ⟨w, hw, lettering_eq_of_map hs⟩

@[simp] theorem Gap.lettering_eq (g : Gap) : lettering g.1 = [] :=
  lettering_eq_nil (fun _ => not_isBlank_of_isCased) g.2

@[simp] theorem WideGap.lettering_eq (g : WideGap) : lettering g.1 = [] :=
  lettering_eq_nil (fun _ => not_isBlank_of_isCased) g.2.2

theorem Phrased.lettering_eq {ws : List String} {s : List Char} (h : Phrased ws s) :
    lettering s = ws.flatMap (·.toList.filter Char.isLower) := by
  induction h with
  | nil => rfl
  | word v => rw [v.lettering_eq, List.flatMap_singleton]
  | cons v gap rest ih =>
    rw [lettering_append, lettering_append, v.lettering_eq, gap.lettering_eq, ih,
      List.nil_append]
    rfl

/-! ## The first digit of a text -/

/-- No digit is a letter, so it does not matter in which case the letters are. -/
theorem isDigit_foldCase (c : Char) : isDigit (foldCase c) = isDigit c := by
  rcases foldCase_eq_self_or c with hself | ⟨hc, hlow⟩
  · rw [hself]
  · have hfold : isCased (foldCase c) = true := by
      rw [isCased, isAlpha_eq, hlow, Bool.or_true]
      rfl
    rw [not_isDigit_of_isCased hc, not_isDigit_of_isCased hfold]

theorem foldCase_of_isDigit {c : Char} (hc : isDigit c = true) : foldCase c = c := by
  rcases foldCase_eq_self_or c with hself | ⟨hcased, -⟩
  · exact hself
  · rw [not_isDigit_of_isCased hcased] at hc
    cases hc

theorem find?_isDigit_map_foldCase (s : List Char) :
    (s.map foldCase).find? isDigit = s.find? isDigit := by
  induction s with
  | nil => rfl
  | cons c s ih =>
    rw [List.map_cons, List.find?_cons, List.find?_cons, isDigit_foldCase, ih]
    cases hc : isDigit c with
    | false => rfl
    | true => exact congrArg some (foldCase_of_isDigit hc)

theorem find?_isDigit_of_map {s : List Char} {w : String} (h : s.map foldCase = w.toList) :
    s.find? isDigit = w.toList.find? isDigit := by
  rw [← h, find?_isDigit_map_foldCase]

theorem Spelled.find?_isDigit {w : String} (s : Spelled w) :
    s.1.find? isDigit = w.toList.find? isDigit :=
  find?_isDigit_of_map s.2

/-- A text of a class without digits. -/
theorem find?_isDigit_eq_none {p : Char → Bool} (hp : ∀ c, p c = true → isDigit c = false)
    {s : List Char} (h : ∀ c ∈ s, p c = true) : s.find? isDigit = none := by
  refine List.find?_eq_none.2 fun c hc => ?_
  rw [hp c (h c hc)]
  exact Bool.false_ne_true

theorem Spelled.find?_isDigit_eq_none {w : String} (s : Spelled w)
    (hw : w.toList.all Char.isLower = true) : s.1.find? isDigit = none :=
  Text.find?_isDigit_eq_none (fun _ => not_isDigit_of_isCased) (s.all_isCased hw)

@[simp] theorem Gap.find?_isDigit (g : Gap) : g.1.find? isDigit = none :=
  find?_isDigit_eq_none (fun _ => not_isDigit_of_isBlank) g.2

@[simp] theorem WideGap.find?_isDigit (g : WideGap) : g.1.find? isDigit = none :=
  find?_isDigit_eq_none (fun _ => not_isDigit_of_isBlank) g.2.2

theorem SpelledIn.find?_isDigit {ws : List String}
    (hws : ∀ w ∈ ws, w.toList.find? isDigit = none) (s : SpelledIn ws) :
    s.1.find? isDigit = none := by
  obtain ⟨s, w, hw, hs⟩ := s
  exact (find?_isDigit_of_map hs).trans (hws w hw)

end KnitPattern.Text
