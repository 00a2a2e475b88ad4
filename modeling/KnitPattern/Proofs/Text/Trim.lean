/-
  Trimming. What is removed from the two ends of a text belongs to the class (`exists_strip`),
  what is left neither begins nor ends with a character of it, and a text of which this holds
  is left as it is (`strip_eq_self`). So characters of the class put around a text are removed
  again, whatever the text is (`strip_padded`).
-/
import KnitPattern.Proofs.Text.Scan
import Mathlib.Data.List.TakeWhile

namespace KnitPattern.Text

variable {p : Char → Bool}

theorem dropWhile_of_ends {s : List Char} (h : Ends p s) : s.dropWhile p = s := by
  cases s with
  | nil => rfl
  | cons c cs =>
    have hc : p c = false := h c rfl
    simp [hc]

theorem ends_dropWhile (p : Char → Bool) (s : List Char) : Ends p (s.dropWhile p) :=
  (Scan.run_eq_some (p := p) (s := s) rfl).2.2

theorem exists_dropWhile (p : Char → Bool) (s : List Char) :
    ∃ g, (∀ c ∈ g, p c = true) ∧ s = g ++ s.dropWhile p :=
  have ⟨hs, hg, _⟩ := Scan.run_eq_some (p := p) (s := s) rfl
  ⟨s.takeWhile p, hg, hs⟩

/-! ## The end of a text -/

theorem stripEnd_append {g : List Char} (hg : ∀ c ∈ g, p c = true) (s : List Char) :
    stripEnd p (s ++ g) = stripEnd p s := by
  unfold stripEnd
  rw [List.reverse_append, List.dropWhile_append_of_pos]
  intro c hc
  exact hg c (List.mem_reverse.1 hc)

theorem stripEnd_eq_self {s : List Char} (h : Ends p s.reverse) : stripEnd p s = s := by
  rw [stripEnd, dropWhile_of_ends h, List.reverse_reverse]

/-- Nothing is removed in front of a character that stays. -/
theorem stripEnd_append_of_ends {h : List Char} (hh : Ends p h.reverse) (s : List Char) :
    stripEnd p (h ++ s) = h ++ stripEnd p s := by
  unfold stripEnd
  rw [List.reverse_append, List.dropWhile_append]
  split
  · next hs =>
    rw [List.isEmpty_iff.1 hs, dropWhile_of_ends hh, List.reverse_nil, List.append_nil,
      List.reverse_reverse]
  · rw [List.reverse_append, List.reverse_reverse]

theorem exists_stripEnd (p : Char → Bool) (s : List Char) :
    ∃ g, (∀ c ∈ g, p c = true) ∧ s = stripEnd p s ++ g := by
  obtain ⟨g, hg, hs⟩ := exists_dropWhile p s.reverse
  refine ⟨g.reverse, fun c hc => hg c (List.mem_reverse.1 hc), ?_⟩
  rw [stripEnd, ← List.reverse_append, ← hs, List.reverse_reverse]

/-! ## Both ends -/

theorem strip_eq_self {s : List Char} (h : Ends p s) (h' : Ends p s.reverse) :
    strip p s = s := by
  rw [strip, dropWhile_of_ends h, stripEnd_eq_self h']

theorem ends_reverse_strip (p : Char → Bool) (s : List Char) : Ends p (strip p s).reverse := by
  rw [strip, stripEnd, List.reverse_reverse]
  exact ends_dropWhile p _

theorem ends_strip (p : Char → Bool) (s : List Char) : Ends p (strip p s) := by
  obtain ⟨g, -, hs⟩ := exists_stripEnd p (s.dropWhile p)
  intro c hc
  refine ends_dropWhile p s c ?_
  rw [hs]
  show (strip p s ++ g).head? = some c
  rw [List.head?_append, Option.mem_def.1 hc]
  rfl

/-- What is removed from a text. -/
theorem exists_strip (p : Char → Bool) (s : List Char) :
    ∃ g g', (∀ c ∈ g, p c = true) ∧ (∀ c ∈ g', p c = true) ∧ s = g ++ strip p s ++ g' := by
  obtain ⟨g, hg, hs⟩ := exists_dropWhile p s
  obtain ⟨g', hg', hs'⟩ := exists_stripEnd p (s.dropWhile p)
  refine ⟨g, g', hg, hg', ?_⟩
  rw [List.append_assoc]
  exact hs.trans (congrArg (g ++ ·) hs')

theorem infix_strip (p : Char → Bool) (s : List Char) : strip p s <:+: s := by
  obtain ⟨g, g', -, -, hs⟩ := exists_strip p s
  exact ⟨g, g', hs.symm⟩

theorem infix_stripEnd (p : Char → Bool) (s : List Char) : stripEnd p s <:+: s := by
  obtain ⟨g, -, hs⟩ := exists_stripEnd p s
  exact ⟨[], g, hs.symm⟩

theorem infix_trim (s : List Char) : trim s <:+: s :=
  infix_strip isBlank s

theorem strip_append_left {g : List Char} (hg : ∀ c ∈ g, p c = true) (s : List Char) :
    strip p (g ++ s) = strip p s := by
  rw [strip, List.dropWhile_append_of_pos hg]
  rfl

theorem strip_append_right {g : List Char} (hg : ∀ c ∈ g, p c = true) (s : List Char) :
    strip p (s ++ g) = strip p s := by
  unfold strip
  rw [List.dropWhile_append]
  cases h : s.dropWhile p with
  | nil =>
    have hall : g.dropWhile p = [] := List.dropWhile_eq_nil_iff.2 hg
    simp [hall]
  | cons c cs => exact stripEnd_append hg (c :: cs)

/-- Characters of a class around a text are removed with those of the text itself. -/
theorem strip_padded {g g' : List Char} (hg : ∀ c ∈ g, p c = true) (hg' : ∀ c ∈ g', p c = true)
    (s : List Char) : strip p (g ++ s ++ g') = strip p s := by
  rw [strip_append_right hg', strip_append_left hg]

theorem trim_padded {g g' : List Char} (hg : ∀ c ∈ g, isBlank c = true)
    (hg' : ∀ c ∈ g', isBlank c = true) (s : List Char) : trim (g ++ s ++ g') = trim s :=
  strip_padded hg hg' s

theorem trim_trim (s : List Char) : trim (trim s) = trim s :=
  strip_eq_self (ends_strip isBlank s) (ends_reverse_strip isBlank s)

/-! ## Two texts next to each other -/

theorem exists_not_of_ends {s : List Char} (hne : s ≠ []) (h : Ends p s) :
    ∃ c ∈ s, p c = false := by
  obtain ⟨c, cs, rfl⟩ := List.exists_cons_of_ne_nil hne
  exact ⟨c, List.mem_cons_self, h c rfl⟩

theorem dropWhile_append_of_exists {s : List Char} (h : ∃ c ∈ s, p c = false) (t : List Char) :
    (s ++ t).dropWhile p = s.dropWhile p ++ t := by
  rw [List.dropWhile_append, if_neg]
  intro hempty
  obtain ⟨c, hc, hpc⟩ := h
  rw [List.dropWhile_eq_nil_iff.1 (List.isEmpty_iff.1 hempty) c hc] at hpc
  cases hpc

theorem stripEnd_append_of_exists {s : List Char} (h : ∃ c ∈ s, p c = false) (v : List Char) :
    stripEnd p (v ++ s) = v ++ stripEnd p s := by
  obtain ⟨c, hc, hpc⟩ := h
  rw [stripEnd, List.reverse_append,
    dropWhile_append_of_exists ⟨c, List.mem_reverse.2 hc, hpc⟩, List.reverse_append,
    List.reverse_reverse]
  rfl

theorem trim_ne_nil {s : List Char} (h : ∃ c ∈ s, isBlank c = false) : trim s ≠ [] := by
  obtain ⟨g, g', hg, hg', hs⟩ := exists_strip isBlank s
  obtain ⟨c, hc, hblank⟩ := h
  intro hnil
  change s = g ++ trim s ++ g' at hs
  rw [hs, hnil, List.append_nil] at hc
  have : isBlank c = true := by
    rcases List.mem_append.1 hc with hc | hc
    · exact hg c hc
    · exact hg' c hc
  rw [hblank] at this
  cases this

/-- Where the inner ends of two texts stay, the outer ones are trimmed as they are alone. -/
theorem trim_append {s t : List Char} (hs : s ≠ []) (ht : t ≠ []) (hs' : Ends isBlank s.reverse)
    (ht' : Ends isBlank t) (v : List Char) : trim (s ++ (v ++ t)) = trim s ++ (v ++ trim t) := by
  have hmem : ∃ c ∈ s, isBlank c = false := by
    obtain ⟨c, hc, hblank⟩ := exists_not_of_ends (mt List.reverse_eq_nil_iff.1 hs) hs'
    exact ⟨c, List.mem_reverse.1 hc, hblank⟩
  have hstart : trim s = s.dropWhile isBlank := by
    obtain ⟨g, hg, hsplit⟩ := exists_dropWhile isBlank s
    have hend : Ends isBlank (s.dropWhile isBlank).reverse := by
      intro c hc
      refine hs' c ?_
      rw [hsplit, List.reverse_append, List.head?_append, Option.mem_def.1 hc]
      rfl
    exact stripEnd_eq_self hend
  rw [hstart, trim, strip, dropWhile_append_of_exists hmem, ← List.append_assoc,
    stripEnd_append_of_exists (exists_not_of_ends ht ht'), List.append_assoc, trim, strip,
    dropWhile_of_ends ht']

end KnitPattern.Text
