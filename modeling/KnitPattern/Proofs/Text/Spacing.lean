/-
  Texts with one space between words. The words on the two sides of a blank do not mix
  (`words_append_blank`), so a text with one space between its words has the same words
  (`words_oneSpaced`). `Squeezes` says how such a text comes from the given one, character by
  character: what is read off the one is then found in the other.
-/
import KnitPattern.Proofs.Text.Pieces
import KnitPattern.Proofs.Text.Trim

namespace KnitPattern.Text

/-! ## Words -/

theorem words_append_blank {b : Char} (hb : isBlank b = true) (s t : List Char) :
    words (s ++ b :: t) = words s ++ words t := by
  unfold words
  rw [List.splitOnP_append_cons s t hb, List.filter_append]

theorem words_of_one {w : List Char} (hne : w ≠ []) (hw : ∀ c ∈ w, isBlank c = false) :
    words w = [w] := by
  rw [words, List.splitOnP_eq_singleton hw, List.filter_cons_of_pos (by simpa using hne)]
  rfl

theorem words_nil : words [] = [] := by
  rw [words, List.splitOnP_nil]
  rfl

theorem words_blanks_append {g : List Char} (hg : ∀ c ∈ g, isBlank c = true) (s : List Char) :
    words (g ++ s) = words s := by
  induction g with
  | nil => rfl
  | cons b g ih =>
    obtain ⟨hb, hg⟩ := List.forall_mem_cons.1 hg
    have h := words_append_blank hb [] (g ++ s)
    rw [words_nil, List.nil_append, List.nil_append] at h
    rw [List.cons_append, h, ih hg]

theorem words_append_blanks {g : List Char} (hg : ∀ c ∈ g, isBlank c = true) (s : List Char) :
    words (s ++ g) = words s := by
  cases g with
  | nil => rw [List.append_nil]
  | cons b g =>
    obtain ⟨hb, hg⟩ := List.forall_mem_cons.1 hg
    have h := words_blanks_append hg []
    rw [List.append_nil, words_nil] at h
    rw [words_append_blank hb, h, List.append_nil]

/-- A word has characters, and no blanks among them. -/
theorem mem_words {s w : List Char} (hw : w ∈ words s) :
    w ≠ [] ∧ ∀ c ∈ w, isBlank c = false := by
  obtain ⟨hw, hne⟩ := List.mem_filter.1 hw
  exact ⟨by simpa using hne, not_of_mem_splitOnP hw⟩

theorem words_intercalate {ws : List (List Char)}
    (h : ∀ w ∈ ws, w ≠ [] ∧ ∀ c ∈ w, isBlank c = false) : words ([' '].intercalate ws) = ws := by
  induction ws with
  | nil => exact words_nil
  | cons w ws ih =>
    obtain ⟨⟨hne, hw⟩, hws⟩ := List.forall_mem_cons.1 h
    cases ws with
    | nil =>
      rw [List.intercalate_singleton, words_of_one hne hw]
    | cons v vs =>
      rw [List.intercalate_cons_cons, List.append_assoc, List.singleton_append,
        words_append_blank (by decide), words_of_one hne hw, ih hws]
      rfl

/-! ## One space between words -/

theorem words_oneSpaced (s : List Char) : words (oneSpaced s) = words s :=
  words_intercalate fun _ => mem_words

theorem oneSpaced_oneSpaced (s : List Char) : oneSpaced (oneSpaced s) = oneSpaced s := by
  rw [oneSpaced, words_oneSpaced]
  rfl

theorem oneSpaced_blanks_append {g : List Char} (hg : ∀ c ∈ g, isBlank c = true)
    (s : List Char) : oneSpaced (g ++ s) = oneSpaced s := by
  rw [oneSpaced, words_blanks_append hg]
  rfl

theorem oneSpaced_append_blanks {g : List Char} (hg : ∀ c ∈ g, isBlank c = true)
    (s : List Char) : oneSpaced (s ++ g) = oneSpaced s := by
  rw [oneSpaced, words_append_blanks hg]
  rfl

/-- The only blank in a text with one space between words is the space. -/
theorem eq_space_of_mem_oneSpaced {s : List Char} {c : Char} (hc : c ∈ oneSpaced s)
    (hb : isBlank c = true) : c = ' ' := by
  have key : ∀ ws : List (List Char), (∀ w ∈ ws, w ≠ [] ∧ ∀ c ∈ w, isBlank c = false) →
      c ∈ [' '].intercalate ws → c = ' ' := by
    intro ws
    induction ws with
    | nil => intro _ hc; cases hc
    | cons w ws ih =>
      intro h hc
      obtain ⟨⟨-, hw⟩, hws⟩ := List.forall_mem_cons.1 h
      have hnot : c ∉ w := fun hcw => by
        rw [hw c hcw] at hb
        cases hb
      cases ws with
      | nil =>
        rw [List.intercalate_singleton] at hc
        exact absurd hc hnot
      | cons v vs =>
        rw [List.intercalate_cons_cons] at hc
        rcases List.mem_append.1 hc with hc | hc
        · rcases List.mem_append.1 hc with hc | hc
          · exact absurd hc hnot
          · exact List.mem_singleton.1 hc
        · exact ih hws hc
  exact key _ (fun _ => mem_words) hc

/-! ## How spaces are left out -/

/-- The second text is the first with every run of blanks made one space, and with the blanks at
its end left out. -/
inductive Squeezes : List Char → List Char → Prop
  | nil {g : List Char} (hg : ∀ c ∈ g, isBlank c = true) : Squeezes g []
  | char {c : Char} {x v : List Char} (hc : isBlank c = false) (h : Squeezes x v) :
      Squeezes (c :: x) (c :: v)
  | gap {g x v : List Char} (hne : g ≠ []) (hg : ∀ c ∈ g, isBlank c = true)
      (h : Squeezes x v) : Squeezes (g ++ x) (' ' :: v)

namespace Squeezes

variable {x v w : List Char}

theorem append (hw : ∀ c ∈ w, isBlank c = false) (h : Squeezes x v) :
    Squeezes (w ++ x) (w ++ v) := by
  induction w with
  | nil => exact h
  | cons c w ih =>
    obtain ⟨hc, hw⟩ := List.forall_mem_cons.1 hw
    exact .char hc (ih hw)

theorem all_of_nil (h : Squeezes x []) : ∀ c ∈ x, isBlank c = true := by
  cases h with
  | nil hg => exact hg

/-- A word that is left stood there before. -/
theorem exists_of_append (hw : ∀ c ∈ w, isBlank c = false) (h : Squeezes x (w ++ v)) :
    ∃ x', x = w ++ x' ∧ Squeezes x' v := by
  induction w generalizing x with
  | nil => exact ⟨x, rfl, h⟩
  | cons c w ih =>
    obtain ⟨hc, hw⟩ := List.forall_mem_cons.1 hw
    cases h with
    | char _ h =>
      obtain ⟨x', rfl, hx'⟩ := ih hw h
      exact ⟨x', rfl, hx'⟩
    | gap => exact absurd hc (by decide)

theorem of_oneSpaced (s : List Char) : Squeezes (s.dropWhile isBlank) (oneSpaced s) := by
  induction s using pieces_induction (p := isBlank) with
  | one w hw =>
    cases w with
    | nil =>
      rw [oneSpaced, words_nil]
      exact .nil (List.forall_mem_nil _)
    | cons c w =>
      rw [oneSpaced, words_of_one (List.cons_ne_nil c w) hw, List.intercalate_singleton,
        dropWhile_of_ends (ends_cons (hw c List.mem_cons_self) w)]
      have h := append hw (.nil (List.forall_mem_nil _))
      rwa [List.append_nil] at h
  | more w b t hw hb ih =>
    cases w with
    | nil =>
      rw [List.nil_append, List.dropWhile_cons_of_pos hb]
      have h := oneSpaced_blanks_append (List.forall_mem_singleton.2 hb) t
      rw [List.singleton_append] at h
      rwa [h]
    | cons c w =>
      rw [dropWhile_of_ends (ends_append (List.cons_ne_nil c w) hw _), oneSpaced,
        words_append_blank hb, words_of_one (List.cons_ne_nil c w) hw]
      obtain ⟨g, hg, ht⟩ := exists_dropWhile isBlank t
      cases hwords : words t with
      | nil =>
        rw [oneSpaced, hwords] at ih
        rw [List.append_nil, List.intercalate_singleton]
        have hall : ∀ d ∈ b :: t, isBlank d = true := by
          rw [ht]
          exact List.forall_mem_cons.2 ⟨hb, List.forall_mem_append.2 ⟨hg, all_of_nil ih⟩⟩
        have h := append hw (.nil hall)
        rwa [List.append_nil] at h
      | cons v vs =>
        rw [oneSpaced, hwords] at ih
        rw [List.singleton_append, List.intercalate_cons_cons, List.append_assoc,
          List.singleton_append, ht, ← List.cons_append]
        exact append hw (.gap (List.cons_ne_nil b g) (List.forall_mem_cons.2 ⟨hb, hg⟩) ih)

end Squeezes

end KnitPattern.Text
