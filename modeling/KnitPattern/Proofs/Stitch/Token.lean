/-
  The tokens of a text put together from others. Everything follows from one equation, that
  the tokens on the two sides of a delimiter do not mix (`split_append_delimiter`): blanks
  around a text and delimiters at its end add no token, and copies of a text joined by commas
  have the tokens of the text over and over (`split_joined`).
-/
import KnitPattern.Proofs.Text.Pieces
import KnitPattern.Proofs.Text.Trim
import KnitPattern.Stitch.Token

namespace KnitPattern.Token

open Text

theorem not_isDelimiter_of_isBlank {c : Char} (hc : isBlank c = true) : isDelimiter c = false := by
  by_contra hd
  rcases Bool.or_eq_true_iff.1 (Bool.not_eq_false _ ▸ hd) with h | h
  · rw [beq_iff_eq.1 h] at hc
    exact absurd hc (by decide)
  · rw [beq_iff_eq.1 h] at hc
    exact absurd hc (by decide)

/-! ## Pieces between delimiters -/

theorem split_append_delimiter {d : Char} (hd : isDelimiter d = true) (s t : List Char) :
    split (s ++ d :: t) = split s ++ split t := by
  unfold split
  rw [List.splitOnP_append_cons s t hd, List.map_append, List.filter_append]

theorem split_of_one {s : List Char} (h : ∀ c ∈ s, isDelimiter c = false) :
    split s = [clean s].filter (!·.isEmpty) := by
  rw [split, List.splitOnP_eq_singleton h, List.map_singleton]

theorem split_nil : split [] = [] := by
  rw [split_of_one (by simp)]
  rfl

/-! ## Blanks around a text -/

theorem clean_padded {g g' : List Char} (hg : ∀ c ∈ g, isBlank c = true)
    (hg' : ∀ c ∈ g', isBlank c = true) (s : List Char) : clean (g ++ s ++ g') = clean s := by
  have hunquote : unquote (g ++ s ++ g') = unquote s := by
    rw [unquote, trim_padded hg hg']
    rfl
  rw [clean, hunquote]
  rfl

theorem unquote_eq_self {s : List Char} (hb : Ends isBlank s) (hb' : Ends isBlank s.reverse)
    (hq : Ends isQuoteMark s) (hq' : Ends isQuoteMark s.reverse) : unquote s = s := by
  have htrim : trim s = s := strip_eq_self hb hb'
  rw [unquote, htrim, strip_eq_self hq hq', htrim]

theorem split_append_blanks {g : List Char} (hg : ∀ c ∈ g, isBlank c = true) (s : List Char) :
    split (s ++ g) = split s := by
  induction s using pieces_induction (p := isDelimiter) with
  | one s hs =>
    have hall : ∀ c ∈ s ++ g, isDelimiter c = false :=
      List.forall_mem_append.2 ⟨hs, fun c hc => not_isDelimiter_of_isBlank (hg c hc)⟩
    rw [split_of_one hall, split_of_one hs]
    have hclean : clean (s ++ g) = clean s := clean_padded (List.forall_mem_nil _) hg s
    rw [hclean]
  | more s d t hs hd ih =>
    rw [List.append_assoc, List.cons_append, split_append_delimiter hd,
      split_append_delimiter hd, ih]

theorem split_blanks_append {g : List Char} (hg : ∀ c ∈ g, isBlank c = true) (s : List Char) :
    split (g ++ s) = split s := by
  have hone : ∀ s, (∀ c ∈ s, isDelimiter c = false) → split (g ++ s) = split s := by
    intro s hs
    have hall : ∀ c ∈ g ++ s, isDelimiter c = false :=
      List.forall_mem_append.2 ⟨fun c hc => not_isDelimiter_of_isBlank (hg c hc), hs⟩
    rw [split_of_one hall, split_of_one hs]
    have hclean : clean (g ++ s) = clean s := by
      have h := clean_padded hg (List.forall_mem_nil _) s
      rwa [List.append_nil] at h
    rw [hclean]
  -- the blanks belong to the first piece
  induction s using pieces_induction (p := isDelimiter) with
  | one s hs => exact hone s hs
  | more s d t hs hd _ =>
    rw [← List.append_assoc, split_append_delimiter hd, split_append_delimiter hd, hone s hs]

theorem split_trim (s : List Char) : split (trim s) = split s := by
  obtain ⟨g, g', hg, hg', hs⟩ := exists_strip isBlank s
  have h : split (g ++ trim s ++ g') = split (trim s) := by
    rw [split_append_blanks hg', split_blanks_append hg]
  rw [← h]
  exact congrArg split hs.symm

/-! ## Copies of a text -/

theorem split_joined (n : Nat) (s : List Char) :
    split ([','].intercalate (List.replicate n s)) =
      (List.replicate n (split s)).flatten := by
  induction n with
  | zero => exact split_nil
  | succ n ih =>
    cases n with
    | zero => simp
    | succ n =>
      rw [List.replicate_succ, List.replicate_succ, List.intercalate_cons_cons,
        ← List.replicate_succ, List.append_assoc, List.singleton_append,
        split_append_delimiter (by decide), ih]
      rfl

/-! ## Tokens stand in the text -/

theorem infix_unquote (s : List Char) : unquote s <:+: s :=
  (infix_trim _).trans ((infix_strip isQuoteMark _).trans (infix_trim s))

theorem infix_clean (s : List Char) : clean s <:+: s :=
  (infix_unquote _).trans ((infix_stripEnd _ _).trans (infix_unquote s))

theorem infix_of_mem_split {s token : List Char} (h : token ∈ split s) : token <:+: s := by
  obtain ⟨piece, hpiece, rfl⟩ := List.mem_map.1 (List.mem_filter.1 h).1
  exact (infix_clean piece).trans (infix_of_mem_splitOnP hpiece)

end KnitPattern.Token
