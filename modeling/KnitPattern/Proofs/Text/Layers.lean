/-
  Layers: a text made of runs of given classes, one after another (`Layered`). Removing one class
  after the other from the front of a text (`peel`) removes a layered text (`exists_peel`), and
  removes all of one that stands in front of something else (`peel_append_of_ends`). What is removed
  from the front of a text and what is removed from its end do not depend on which is removed first
  (`dropWhile_stripEnd`), so any sequence of such removals is one from the front and one from the
  end.
-/
import KnitPattern.Proofs.Text.Trim

namespace KnitPattern.Text

variable {p : Char → Bool} {ps : List (Char → Bool)} {s t g : List Char}

/-! ## The front and the end -/

/-- What is in front of a text that stays is removed as it is alone. -/
theorem dropWhile_append_of_ends (h : Ends p t) (s : List Char) :
    (s ++ t).dropWhile p = s.dropWhile p ++ t := by
  rw [List.dropWhile_append]
  split
  · next hs => rw [List.isEmpty_iff.1 hs, dropWhile_of_ends h, List.nil_append]
  · rfl

/-- Characters are removed from the front and from the end in either order. -/
theorem dropWhile_stripEnd (p q : Char → Bool) (s : List Char) :
    (stripEnd q s).dropWhile p = stripEnd q (s.dropWhile p) := by
  by_cases hall : ∀ c ∈ s.dropWhile p, q c = true
  · -- nothing is left, whatever is removed first
    obtain ⟨g, hg, hs⟩ := exists_dropWhile p s
    have hleft : stripEnd q (s.dropWhile p) = [] := stripEnd_append hall []
    rw [hleft, List.dropWhile_eq_nil_iff]
    intro c hc
    rw [hs, stripEnd_append hall] at hc
    exact hg c ((infix_stripEnd q g).subset hc)
  · obtain ⟨c, hc, hqc⟩ : ∃ c ∈ s.dropWhile p, q c = false := by simpa using hall
    obtain ⟨g, hg, hs⟩ := exists_dropWhile p s
    obtain ⟨g', -, hs'⟩ := exists_stripEnd q (s.dropWhile p)
    have hends : Ends p (stripEnd q (s.dropWhile p)) := by
      intro d hd
      refine ends_dropWhile p s d ?_
      rw [hs', List.head?_append, Option.mem_def.1 hd]
      rfl
    conv_lhs => rw [hs, stripEnd_append_of_exists ⟨c, hc, hqc⟩]
    rw [List.dropWhile_append_of_pos hg, dropWhile_of_ends hends]

/-! ## Layers -/

/-- The text is made of runs of the given classes, one after another. A run may be empty. -/
def Layered : List (Char → Bool) → List Char → Prop
  | [], s => s = []
  | p :: ps, s => ∃ g r, s = g ++ r ∧ (∀ c ∈ g, p c = true) ∧ Layered ps r

/-- Removes the characters of one class after the other from the front of a text. -/
def peel (ps : List (Char → Bool)) (s : List Char) : List Char :=
  ps.foldl (fun s p => s.dropWhile p) s

/-- Removes the characters of one class after the other from the end of a text. -/
def peelEnd (ps : List (Char → Bool)) (s : List Char) : List Char :=
  ps.foldl (fun s p => stripEnd p s) s

theorem layered_nil : ∀ ps, Layered ps []
  | [] => rfl
  | _ :: ps => ⟨[], [], rfl, List.forall_mem_nil _, layered_nil ps⟩

/-- Every part of layers has the layers. -/
theorem Layered.of_append (h : Layered ps (s ++ t)) : Layered ps s ∧ Layered ps t := by
  induction ps generalizing s t with
  | nil =>
    obtain ⟨hs, ht⟩ := List.append_eq_nil_iff.1 h
    exact ⟨hs, ht⟩
  | cons p ps ih =>
    obtain ⟨g, r, hsplit, hg, hr⟩ := h
    rcases List.append_eq_append_iff.1 hsplit with ⟨v, rfl, rfl⟩ | ⟨v, rfl, rfl⟩
    · obtain ⟨hs, hv⟩ := List.forall_mem_append.1 hg
      exact ⟨⟨s, [], (List.append_nil s).symm, hs, layered_nil ps⟩, v, r, rfl, hv, hr⟩
    · obtain ⟨hv, ht⟩ := ih hr
      exact ⟨⟨g, v, rfl, hg, hv⟩, [], t, rfl, List.forall_mem_nil _, ht⟩

theorem Layered.exists_class (h : Layered ps s) {c : Char} (hc : c ∈ s) :
    ∃ p ∈ ps, p c = true := by
  induction ps generalizing s with
  | nil =>
    rw [show s = [] from h] at hc
    cases hc
  | cons p ps ih =>
    obtain ⟨g, r, rfl, hg, hr⟩ := h
    rcases List.mem_append.1 hc with hc | hc
    · exact ⟨p, List.mem_cons_self, hg c hc⟩
    · obtain ⟨q, hq, hqc⟩ := ih hr hc
      exact ⟨q, List.mem_cons_of_mem p hq, hqc⟩

/-- What is removed from a text is layered. -/
theorem exists_peel (ps : List (Char → Bool)) (s : List Char) :
    ∃ g, Layered ps g ∧ s = g ++ peel ps s := by
  induction ps generalizing s with
  | nil => exact ⟨[], rfl, rfl⟩
  | cons p ps ih =>
    obtain ⟨g, hg, hs⟩ := exists_dropWhile p s
    obtain ⟨g', hg', hs'⟩ := ih (s.dropWhile p)
    refine ⟨g ++ g', ⟨g, g', rfl, hg, hg'⟩, ?_⟩
    rw [List.append_assoc]
    exact hs.trans (congrArg (g ++ ·) hs')

/-- Layers in front of a text are removed, and perhaps more. -/
theorem Layered.exists_peel_append (h : Layered ps g) (s : List Char) :
    ∃ v, s = v ++ peel ps (g ++ s) := by
  induction ps generalizing g s with
  | nil => exact ⟨[], by rw [show g = [] from h]; rfl⟩
  | cons p ps ih =>
    obtain ⟨a, r, rfl, ha, hr⟩ := h
    have hdrop : peel (p :: ps) (a ++ r ++ s) = peel ps ((r ++ s).dropWhile p) := by
      show peel ps ((a ++ r ++ s).dropWhile p) = _
      rw [List.append_assoc, List.dropWhile_append_of_pos ha]
    rw [hdrop]
    obtain ⟨g', -, hsplit⟩ := exists_dropWhile p (r ++ s)
    -- the run goes on in the next layers, or to their end and beyond
    rcases List.append_eq_append_iff.1 hsplit with ⟨v, -, hs⟩ | ⟨v, hr', hs⟩
    · obtain ⟨w, hw⟩ := ih (layered_nil ps) ((r ++ s).dropWhile p)
      refine ⟨v ++ w, ?_⟩
      rw [List.append_assoc]
      exact hs.trans (congrArg (v ++ ·) hw)
    · rw [hr'] at hr
      rw [hs]
      exact ih hr.of_append.2 s

theorem Layered.peel_append_of_ends (h : Layered ps g) (hs : ∀ p ∈ ps, Ends p s) :
    peel ps (g ++ s) = s := by
  induction ps generalizing g with
  | nil =>
    rw [show g = [] from h]
    rfl
  | cons p ps ih =>
    obtain ⟨hp, hps⟩ := List.forall_mem_cons.1 hs
    obtain ⟨a, r, rfl, ha, hr⟩ := h
    obtain ⟨v, -, hv⟩ := exists_dropWhile p r
    rw [hv] at hr
    show peel ps ((a ++ r ++ s).dropWhile p) = s
    rw [List.append_assoc, List.dropWhile_append_of_pos ha, dropWhile_append_of_ends hp]
    exact ih hr.of_append.2 hps

theorem layered_iff : Layered ps s ↔ peel ps s = [] := by
  constructor
  · intro h
    have hpeel := h.peel_append_of_ends fun p _ => ends_nil p
    rwa [List.append_nil] at hpeel
  · intro h
    obtain ⟨g, hg, hs⟩ := exists_peel ps s
    rw [h, List.append_nil] at hs
    rwa [hs]

instance (ps : List (Char → Bool)) (s : List Char) : Decidable (Layered ps s) :=
  decidable_of_iff _ layered_iff.symm

theorem suffix_peel (ps : List (Char → Bool)) (s : List Char) : peel ps s <:+ s := by
  obtain ⟨g, -, hs⟩ := exists_peel ps s
  exact ⟨g, hs.symm⟩

/-- A text from which nothing is removed begins with a character of no class. -/
theorem peel_eq_self_iff : peel ps s = s ↔ ∀ p ∈ ps, Ends p s := by
  induction ps with
  | nil => exact ⟨fun _ => List.forall_mem_nil _, fun _ => rfl⟩
  | cons p ps ih =>
    rw [List.forall_mem_cons, ← ih]
    constructor
    · intro h
      have hdrop : s.dropWhile p = s := by
        have hsuffix : peel (p :: ps) s <:+ s.dropWhile p := suffix_peel ps _
        rw [h] at hsuffix
        exact (List.dropWhile_suffix p).eq_of_length_le hsuffix.length_le
      refine ⟨?_, ?_⟩
      · rw [← hdrop]
        exact ends_dropWhile p s
      · change peel ps (s.dropWhile p) = s at h
        rwa [hdrop] at h
    · rintro ⟨hp, hps⟩
      show peel ps (s.dropWhile p) = s
      rw [dropWhile_of_ends hp, hps]

/-! ## Layers at the end -/

theorem peelEnd_eq (ps : List (Char → Bool)) (s : List Char) :
    peelEnd ps s = (peel ps s.reverse).reverse := by
  induction ps generalizing s with
  | nil => exact (List.reverse_reverse s).symm
  | cons p ps ih =>
    show peelEnd ps (stripEnd p s) = _
    rw [ih, stripEnd, List.reverse_reverse]
    rfl

theorem peelEnd_eq_self_iff : peelEnd ps s = s ↔ ∀ p ∈ ps, Ends p s.reverse := by
  rw [← peel_eq_self_iff, peelEnd_eq, List.reverse_eq_iff]

theorem exists_peelEnd (ps : List (Char → Bool)) (s : List Char) :
    ∃ g, Layered ps g.reverse ∧ s = peelEnd ps s ++ g := by
  obtain ⟨g, hg, hs⟩ := exists_peel ps s.reverse
  refine ⟨g.reverse, by rwa [List.reverse_reverse], ?_⟩
  rw [peelEnd_eq, ← List.reverse_append, ← hs, List.reverse_reverse]

end KnitPattern.Text
