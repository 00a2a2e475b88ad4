/-
  The lines of a text put together from others. A character that ends a line is a blank, so a
  text in which every blank is a space has one line. The lines of two texts with a line feed
  between them are those of the two, with an empty line between them unless the first text ends
  within a line or with a carriage return, which the line feed only completes
  (`exists_lines_append`).
-/
import KnitPattern.Text.Blank
import KnitPattern.Text.Line
import Mathlib.Data.List.Basic

namespace KnitPattern.Text

theorem isBlank_of_isLineBreak {c : Char} (h : isLineBreak c = true) : isBlank c = true := by
  simp only [isLineBreak, isBlank, Bool.or_eq_true, Bool.and_eq_true, decide_eq_true_eq,
    beq_iff_eq] at h ⊢
  omega

theorem lines_cons {c : Char} (hc : isLineBreak c = false) (s : List Char) :
    lines (c :: s) = match lines s with
      | [] => [[c]]
      | l :: ls => (c :: l) :: ls := by
  have hne : c ≠ '\r' := by
    rintro rfl
    exact absurd hc (by decide)
  rw [lines]
  · rw [hc]
    rfl
  · intro _ h
    exact absurd h hne

/-- A character that ends a line, except for a carriage return before a line feed. -/
theorem lines_break {c : Char} (hc : isLineBreak c = true) {s : List Char}
    (h : ¬ (c = '\r' ∧ s.head? = some '\n')) : lines (c :: s) = [] :: lines s := by
  rw [lines]
  · rw [if_pos hc]
  · rintro cs rfl rfl
    exact h ⟨rfl, rfl⟩

theorem lines_append_newline {l : List Char} (hl : ∀ c ∈ l, isLineBreak c = false)
    (s : List Char) : lines (l ++ '\n' :: s) = l :: lines s := by
  induction l with
  | nil => rfl
  | cons c l ih =>
    obtain ⟨hc, hl⟩ := List.forall_mem_cons.1 hl
    rw [List.cons_append, lines_cons hc, ih hl]

theorem lines_of_one {l : List Char} (hne : l ≠ []) (hl : ∀ c ∈ l, isLineBreak c = false) :
    lines l = [l] := by
  induction l with
  | nil => exact absurd rfl hne
  | cons c l ih =>
    obtain ⟨hc, hl⟩ := List.forall_mem_cons.1 hl
    cases l with
    | nil => rw [lines_cons hc]; rfl
    | cons d l => rw [lines_cons hc, ih (List.cons_ne_nil d l) hl]

theorem lines_intercalate {ls : List (List Char)}
    (h : ∀ l ∈ ls, l ≠ [] ∧ ∀ c ∈ l, isLineBreak c = false) :
    lines (['\n'].intercalate ls) = ls := by
  induction ls with
  | nil => rfl
  | cons l ls ih =>
    obtain ⟨⟨hne, hl⟩, hls⟩ := List.forall_mem_cons.1 h
    cases ls with
    | nil => rw [List.intercalate_singleton, lines_of_one hne hl]
    | cons m ms =>
      rw [List.intercalate_cons_cons, List.append_assoc, List.singleton_append,
        lines_append_newline hl, ih hls]

/-! ## Lines stand in the text -/

theorem prefix_of_lines_eq_cons {s l : List Char} {ls : List (List Char)}
    (h : lines s = l :: ls) : l <+: s := by
  fun_induction lines s generalizing l ls with
  | case1 => cases h
  | case2 => cases h; exact List.nil_prefix
  | case3 => cases h; exact List.nil_prefix
  | case4 c cs => cases h; exact ⟨cs, rfl⟩
  | case5 c cs _ _ m ms hcs ih => cases h; exact (List.prefix_cons_inj c).2 (ih hcs)

theorem infix_of_mem_lines {s l : List Char} (hl : l ∈ lines s) : l <:+: s := by
  fun_induction lines s with
  | case1 => cases hl
  | case2 cs ih =>
    rcases List.mem_cons.1 hl with rfl | hl
    · exact List.nil_infix
    · exact (ih hl).trans ⟨['\r', '\n'], [], by simp⟩
  | case3 c cs _ _ ih =>
    rcases List.mem_cons.1 hl with rfl | hl
    · exact List.nil_infix
    · exact List.infix_cons (ih hl)
  | case4 c cs =>
    rw [List.mem_singleton.1 hl]
    exact ⟨[], cs, rfl⟩
  | case5 c cs _ _ m ms hcs ih =>
    rcases List.mem_cons.1 hl with rfl | hl
    · exact ((List.prefix_cons_inj c).2 (prefix_of_lines_eq_cons hcs)).isInfix
    · exact List.infix_cons (ih (hcs ▸ List.mem_cons_of_mem m hl))

/-! ## Two texts with a line feed between them -/

theorem lines_eq_nil_iff {s : List Char} : lines s = [] ↔ s = [] := by
  fun_cases lines s <;> simp

/-- Between the lines of two texts with a line feed between them there is at most an empty line. -/
theorem exists_lines_append (s t : List Char) :
    ∃ e, (e = [] ∨ e = [[]]) ∧ lines (s ++ '\n' :: t) = lines s ++ (e ++ lines t) := by
  fun_induction lines s with
  | case1 => exact ⟨[[]], .inr rfl, rfl⟩
  | case2 s ih =>
    obtain ⟨e, he, hlines⟩ := ih
    refine ⟨e, he, ?_⟩
    show [] :: lines (s ++ '\n' :: t) = _
    rw [hlines]
    rfl
  | case3 c s hreturn hc ih =>
    by_cases hlast : c = '\r' ∧ s = []
    · obtain ⟨rfl, rfl⟩ := hlast
      exact ⟨[], .inl rfl, rfl⟩
    · obtain ⟨e, he, hlines⟩ := ih
      refine ⟨e, he, ?_⟩
      rw [List.cons_append, lines_break hc, hlines]
      · rfl
      · rintro ⟨rfl, hhead⟩
        cases s with
        | nil => exact hlast ⟨rfl, rfl⟩
        | cons d s =>
          cases hhead
          exact hreturn s rfl rfl
  | case4 c s hreturn hc hs ih =>
    -- the text is one line that is still open, and the line feed ends it
    have hbreak := lines_append_newline (l := [c]) (by simpa using hc) t
    rw [lines_eq_nil_iff.1 hs]
    exact ⟨[], .inl rfl, hbreak⟩
  | case5 c s hreturn hc l ls hs ih =>
    obtain ⟨e, he, hlines⟩ := ih
    refine ⟨e, he, ?_⟩
    rw [List.cons_append, lines_cons (Bool.eq_false_iff.2 hc), hlines, hs]
    rfl

/-! ## A line of a text -/

/-- A text that is empty or ends with a character that ends a line. -/
def Closed (s : List Char) : Prop :=
  ∀ c ∈ s.getLast?, isLineBreak c = true

theorem closed_concat (s : List Char) {c : Char} (hc : isLineBreak c = true) :
    Closed (s ++ [c]) := by
  intro d hd
  rw [List.getLast?_concat] at hd
  cases hd
  exact hc

theorem Closed.of_cons {c : Char} {s : List Char} (h : Closed (c :: s)) : Closed s := by
  intro d hd
  refine h d ?_
  rw [List.getLast?_cons, Option.mem_def.1 hd]
  rfl

/-- The lines of a text that is closed stay as they are, whatever follows it, but for a line
feed. -/
theorem lines_append_of_closed {s t : List Char} (hs : Closed s) (ht : t.head? ≠ some '\n') :
    lines (s ++ t) = lines s ++ lines t := by
  fun_induction lines s with
  | case1 => rfl
  | case2 s ih =>
    show [] :: lines (s ++ t) = _
    rw [ih hs.of_cons.of_cons]
    rfl
  | case3 c s hreturn hc ih =>
    rw [List.cons_append, lines_break hc, ih hs.of_cons]
    · rfl
    · rintro ⟨rfl, hhead⟩
      cases s with
      | nil => exact ht hhead
      | cons d s =>
        cases hhead
        exact hreturn s rfl rfl
  | case4 c s hreturn hc hlines ih =>
    rw [lines_eq_nil_iff.1 hlines] at hs
    exact absurd (hs c rfl) hc
  | case5 c s hreturn hc l ls hlines ih =>
    rw [List.cons_append, lines_cons (Bool.eq_false_iff.2 hc), ih hs.of_cons, hlines]
    rfl

/-- A line that is followed by nothing or by a character that ends it. -/
theorem lines_append_of_break {l t : List Char} (hne : l ≠ [])
    (hl : ∀ c ∈ l, isLineBreak c = false) (ht : ∀ c ∈ t.head?, isLineBreak c = true) :
    lines (l ++ t) = l :: (lines t).tail := by
  cases t with
  | nil => rw [List.append_nil, lines_of_one hne hl, lines, List.tail_nil]
  | cons b t =>
    have hempty : lines (b :: t) = [] :: (lines (b :: t)).tail := by
      by_cases hreturn : b = '\r' ∧ t.head? = some '\n'
      · obtain ⟨rfl, hhead⟩ := hreturn
        cases t with
        | nil => cases hhead
        | cons d t =>
          cases hhead
          rfl
      · rw [lines_break (ht b rfl) hreturn, List.tail_cons]
    clear hne
    induction l with
    | nil => exact hempty
    | cons c l ih =>
      obtain ⟨hc, hl⟩ := List.forall_mem_cons.1 hl
      rw [List.cons_append, lines_cons hc, ih hl]

theorem unbroken_of_any {l : List Char} (h : l.any isLineBreak = false) :
    ∀ c ∈ l, isLineBreak c = false :=
  fun c hc => Bool.eq_false_iff.2 (List.any_eq_false.1 h c hc)

theorem head?_append_ne_newline {l : List Char} (hne : l ≠ [])
    (hl : ∀ c ∈ l, isLineBreak c = false) (t : List Char) : (l ++ t).head? ≠ some '\n' := by
  obtain ⟨c, cs, rfl⟩ := List.exists_cons_of_ne_nil hne
  intro h
  have hc := hl c List.mem_cons_self
  rw [Option.some.inj h] at hc
  exact absurd hc (by decide)

end KnitPattern.Text
