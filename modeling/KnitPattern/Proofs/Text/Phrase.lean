/-
  Phrases: words with gaps between them, words of which one may stand for the other, and parts
  that may be left out. As with words, each has a lemma that reads it where it stands and one
  that finds it in what was read.
-/
import KnitPattern.Proofs.Text.Word

namespace KnitPattern.Text

/-! ## One of several words -/

/-- Words of which each has a letter, and no other characters. -/
def AllLetters (ws : List String) : Prop :=
  ∀ w ∈ ws, w.toList ≠ [] ∧ w.toList.all Char.isLower = true

instance (ws : List String) : Decidable (AllLetters ws) :=
  inferInstanceAs (Decidable (∀ w ∈ ws, _))

/-- One of some words in small letters, written in either case. -/
abbrev SpelledIn (ws : List String) := { s : List Char // ∃ w ∈ ws, s.map foldCase = w.toList }

namespace SpelledIn

variable {v w : String}

def left (s : Spelled v) : SpelledIn [v, w] :=
  ⟨s.1, v, List.mem_cons_self, s.2⟩

def right (s : Spelled w) : SpelledIn [v, w] :=
  ⟨s.1, w, List.mem_cons_of_mem v List.mem_cons_self, s.2⟩

/-- A word of these begins with no character of a class without letters. -/
theorem ends {p : Char → Bool} {ws : List String} (hp : ∀ c, isCased c = true → p c = false)
    (hws : AllLetters ws) (s : SpelledIn ws) (r : List Char) : Ends p (s.1 ++ r) := by
  obtain ⟨s, w, hw, hs⟩ := s
  exact Spelled.ends ⟨s, hs⟩ hp (hws w hw).2 (hws w hw).1 r

/-- The second of two words is tried where the first does not fit, so they may have no more
than their length in common. -/
theorem append (s : SpelledIn [v, w]) (hlen : v.toList.length = w.toList.length)
    (hne : v ≠ w) (r : List Char) :
    (Scan.word v <|> Scan.word w) (s.1 ++ r) = some ((), r) := by
  obtain ⟨s, u, hu, hs⟩ := s
  rcases List.mem_pair.1 hu with rfl | rfl
  · exact Scan.orElse_of_some (Scan.letters_append hs)
  · have hv : Scan.word v (s ++ r) = none := by
      refine Scan.letters_of_ne ?_ ?_
      · rw [hlen, ← hs, List.length_map]
      · rw [hs]
        exact fun h => hne (String.toList_inj.1 h).symm
    rw [Scan.orElse_of_none hv]
    exact Scan.letters_append hs

theorem exists_of_orElse {s r : List Char}
    (h : (Scan.word v <|> Scan.word w) s = some ((), r)) :
    ∃ u : SpelledIn [v, w], s = u.1 ++ r := by
  rcases Scan.orElse_eq_some.1 h with h | ⟨-, h⟩
  · obtain ⟨u, hu, rfl⟩ := Scan.letters_eq_some h
    exact ⟨left ⟨u, hu⟩, rfl⟩
  · obtain ⟨u, hu, rfl⟩ := Scan.letters_eq_some h
    exact ⟨right ⟨u, hu⟩, rfl⟩

end SpelledIn

/-! ## Words with gaps between them -/

/-- The text consists of the given words with gaps between them. -/
inductive Phrased : List String → List Char → Prop where
  | nil : Phrased [] []
  | word {w : String} (s : Spelled w) : Phrased [w] s.1
  | cons {w w' : String} {ws : List String} {t : List Char} (s : Spelled w) (gap : WideGap)
      (rest : Phrased (w' :: ws) t) : Phrased (w :: w' :: ws) (s.1 ++ (gap.1 ++ t))

/-- Words with gaps between them. -/
abbrev Phrase (ws : List String) := { s : List Char // Phrased ws s }

namespace Phrased

variable {w : String} {ws : List String} {s : List Char}

/-- A phrase begins with its first word. -/
theorem exists_spelled (h : Phrased (w :: ws) s) :
    ∃ (v : Spelled w) (r : List Char), s = v.1 ++ r := by
  cases h with
  | word v => exact ⟨v, [], (List.append_nil _).symm⟩
  | cons v gap rest => exact ⟨v, _, rfl⟩

/-- A phrase begins with no character of a class without letters. -/
theorem ends {p : Char → Bool} (hp : ∀ c, isCased c = true → p c = false)
    (hws : AllLetters (w :: ws)) (h : Phrased (w :: ws) s) (r : List Char) : Ends p (s ++ r) := by
  obtain ⟨v, t, rfl⟩ := h.exists_spelled
  have hw := hws w List.mem_cons_self
  rw [List.append_assoc]
  exact v.ends hp hw.2 hw.1 _

theorem append (hws : AllLetters ws) (h : Phrased ws s) (r : List Char) :
    Scan.phrase ws (s ++ r) = some ((), r) := by
  induction h with
  | nil => rfl
  | word v => exact Scan.letters_append v.2
  | cons v gap rest ih =>
    have hrest := (List.forall_mem_cons.1 hws).2
    have hgap := rest.ends (fun _ => not_isBlank_of_isCased) hrest r
    rw [Scan.phrase, List.append_assoc, List.append_assoc, Scan.word,
      Scan.bind_of_some (Scan.letters_append v.2),
      Scan.bind_of_some (Scan.blanks1_append gap.2.1 gap.2.2 hgap)]
    exact ih hrest
    exact List.cons_ne_nil _ _

end Phrased

namespace Phrase

variable {ws : List String}

theorem exists_of_phrase {s r : List Char} (h : Scan.phrase ws s = some ((), r)) :
    ∃ t : Phrase ws, s = t.1 ++ r := by
  induction ws generalizing s with
  | nil =>
    cases h
    exact ⟨⟨[], .nil⟩, rfl⟩
  | cons w ws ih =>
    cases ws with
    | nil =>
      obtain ⟨v, hv, rfl⟩ := Scan.letters_eq_some h
      exact ⟨⟨v, .word ⟨v, hv⟩⟩, rfl⟩
    | cons w' ws =>
      obtain ⟨_, t1, hword, hafter⟩ := Scan.bind_eq_some.1 h
      obtain ⟨_, t2, hgap, hrest⟩ := Scan.bind_eq_some.1 hafter
      obtain ⟨v, hv, rfl⟩ := Scan.letters_eq_some hword
      obtain ⟨gap, rfl, hg⟩ := Scan.blanks1_eq_some hgap
      obtain ⟨rest, rfl⟩ := ih hrest
      exact ⟨⟨_, .cons ⟨v, hv⟩ ⟨gap, hg⟩ rest.2⟩, by simp⟩

end Phrase

/-! ## What may be left out -/

namespace Scan

variable {α : Type} {text : α → List Char} {q : Scan Unit} {s r : List Char}

/-- A part that may be left out is read where it stands, if it is not read from what follows. -/
theorem optional_append (hsome : ∀ x, q (text x ++ r) = some ((), r)) (hnone : q r = none)
    (o : Option α) : optional q (o.elim [] text ++ r) = some ((), r) := by
  cases o with
  | none => exact optional_of_none hnone
  | some x => exact optional_of_some (hsome x)

theorem exists_elim (hq : ∀ {s r}, q s = some ((), r) → ∃ x, s = text x ++ r)
    (h : optional q s = some ((), r)) : ∃ o : Option α, s = o.elim [] text ++ r := by
  rcases optional_eq_some h with h | rfl
  · obtain ⟨x, rfl⟩ := hq h
    exact ⟨some x, rfl⟩
  · exact ⟨none, rfl⟩

end Scan

end KnitPattern.Text
