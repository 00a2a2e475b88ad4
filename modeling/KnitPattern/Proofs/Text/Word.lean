/-
  Words and gaps. A word may be written in small or capital letters, and a gap is a run of
  blanks; neither is mistaken for the other, and neither holds a star.
-/
import KnitPattern.Proofs.Text.Classes
import KnitPattern.Proofs.Text.Scan

namespace KnitPattern.Text

/-- Any number of blanks. -/
abbrev Gap := { s : List Char // ∀ c ∈ s, isBlank c = true }

/-- At least one blank. -/
abbrev WideGap := { s : List Char // s ≠ [] ∧ ∀ c ∈ s, isBlank c = true }

/-- No blanks. -/
def Gap.nothing : Gap :=
  ⟨[], List.forall_mem_nil _⟩

/-- One space. -/
def WideGap.space : WideGap :=
  ⟨[' '], List.cons_ne_nil _ _, List.forall_mem_singleton.2 (by decide)⟩

def Gap.space : Gap :=
  ⟨[' '], WideGap.space.2.2⟩

/-- A word in small letters, written in either case. -/
abbrev Spelled (w : String) := { s : List Char // s.map foldCase = w.toList }

/-! ## Words and what they are not -/

namespace Spelled

variable {w : String} (s : Spelled w)

theorem ne_nil (hw : w.toList ≠ []) : s.1 ≠ [] := by
  intro hs
  have h := s.2
  rw [hs] at h
  exact hw h.symm

theorem all_isCased (hw : w.toList.all Char.isLower = true) : ∀ c ∈ s.1, isCased c = true := by
  intro c hc
  refine isCased_of_foldCase (List.all_eq_true.1 hw (foldCase c) ?_) rfl
  rw [← s.2]
  exact List.mem_map_of_mem hc

/-- A word begins with no character of a class without letters. -/
theorem ends {p : Char → Bool} (hp : ∀ c, isCased c = true → p c = false)
    (hw : w.toList.all Char.isLower = true) (hne : w.toList ≠ []) (r : List Char) :
    Ends p (s.1 ++ r) :=
  ends_append (s.ne_nil hne) (fun c hc => hp c (s.all_isCased hw c hc)) r

/-- A word begins as it is spelled. -/
theorem ends_of_head {l l' : Char} {ls : List Char} (hw : w.toList = l :: ls) (hl : l ≠ l')
    (r : List Char) : Ends (foldCase · == l') (s.1 ++ r) := by
  have hne : w.toList ≠ [] := by
    rw [hw]
    exact List.cons_ne_nil l ls
  obtain ⟨c, cs, hs⟩ := List.exists_cons_of_ne_nil (s.ne_nil hne)
  have h := s.2
  rw [hs, hw, List.map_cons] at h
  rw [hs]
  refine ends_cons ?_ _
  rw [(List.cons.inj h).1]
  exact beq_eq_false_iff_ne.2 hl

/-- A word that is spelled with a letter first begins with no character of a class without
letters. -/
theorem ends_of_letter {p : Char → Bool} (hp : ∀ c, isCased c = true → p c = false) {l : Char}
    {ls : List Char} (hw : w.toList = l :: ls) (hl : l.isLower = true) (r : List Char) :
    Ends p (s.1 ++ r) := by
  obtain ⟨s, hs⟩ := s
  cases s with
  | nil =>
    rw [hw] at hs
    cases hs
  | cons c cs =>
    rw [hw, List.map_cons] at hs
    exact ends_cons (hp c (isCased_of_foldCase hl (List.cons.inj hs).1)) _

theorem not_mem {a : Char} (ha : isCased a = false) (hw : w.toList.all Char.isLower = true) :
    a ∉ s.1 := by
  intro h
  rw [s.all_isCased hw a h] at ha
  cases ha

theorem exists_of_word {s r : List Char} (h : Scan.word w s = some ((), r)) :
    ∃ v : Spelled w, s = v.1 ++ r := by
  obtain ⟨v, hv, rfl⟩ := Scan.letters_eq_some h
  exact ⟨⟨v, hv⟩, rfl⟩

/-! ## Words that may be left out -/

theorem all_isCased_elim (hw : w.toList.all Char.isLower = true) (o : Option (Spelled w)) :
    ∀ c ∈ o.elim [] (·.1), isCased c = true := by
  cases o with
  | none => exact List.forall_mem_nil _
  | some s => exact s.all_isCased hw

theorem not_mem_elim {a : Char} (ha : isCased a = false)
    (hw : w.toList.all Char.isLower = true) (o : Option (Spelled w)) :
    a ∉ o.elim [] (·.1) := by
  cases o with
  | none => exact List.not_mem_nil
  | some s => exact s.not_mem ha hw

/-- A word that may be left out is read where it stands, if what follows is not that word. -/
theorem optional_elim_append (o : Option (Spelled w)) {r : List Char}
    (hr : Scan.word w r = none) :
    Scan.optional (Scan.word w) (o.elim [] (·.1) ++ r) = some ((), r) := by
  cases o with
  | none => exact Scan.optional_of_none hr
  | some s => exact Scan.optional_of_some (Scan.letters_append s.2)

theorem exists_elim_of_optional {s r : List Char}
    (h : Scan.optional (Scan.word w) s = some ((), r)) :
    ∃ o : Option (Spelled w), s = o.elim [] (·.1) ++ r := by
  rcases Scan.optional_eq_some h with h | rfl
  · obtain ⟨v, hv, rfl⟩ := Scan.letters_eq_some h
    exact ⟨some ⟨v, hv⟩, rfl⟩
  · exact ⟨none, rfl⟩

end Spelled

/-! ## Signs -/

/-- A sign that is not a letter is read as no other. -/
theorem Scan.eq_cons_of_letters {l : Char} {s r : List Char} (hl : l.isLower = false)
    (h : Scan.letters [l] s = some ((), r)) : s = l :: r := by
  obtain ⟨w, hw, rfl⟩ := Scan.letters_eq_some h
  cases w with
  | nil => cases hw
  | cons c cs =>
    obtain ⟨hc, hcs⟩ := List.cons.inj hw
    rw [eq_of_foldCase hl hc, List.map_eq_nil_iff.1 hcs]
    rfl

/-! ## Words and gaps from behind -/

/-- A word as it is met from the end of a text. -/
def Spelled.backwards {w v : String} (s : Spelled w) (h : v.toList = w.toList.reverse) :
    Spelled v :=
  ⟨s.1.reverse, by rw [List.map_reverse, s.2, h]⟩

def WideGap.backwards (g : WideGap) : WideGap :=
  ⟨g.1.reverse, mt List.reverse_eq_nil_iff.1 g.2.1, fun c hc => g.2.2 c (List.mem_reverse.1 hc)⟩

/-! ## Gaps and what they are not -/

/-- A blank is not read as a letter. -/
theorem foldCase_ne_of_isBlank {c l : Char} (hc : isBlank c = true) (hl : l.isLower = true) :
    (foldCase c == l) = false := by
  refine beq_eq_false_iff_ne.2 fun h => ?_
  rw [not_isBlank_of_isCased (isCased_of_foldCase hl h)] at hc
  cases hc

theorem WideGap.ends (g : WideGap) {l : Char} (hl : l.isLower = true) (r : List Char) :
    Ends (foldCase · == l) (g.1 ++ r) :=
  ends_append g.2.1 (fun c hc => foldCase_ne_of_isBlank (g.2.2 c hc) hl) r

theorem Gap.exists_of_blanks {s r : List Char} (h : Scan.blanks s = some ((), r)) :
    ∃ g : Gap, s = g.1 ++ r := by
  obtain ⟨g, rfl, hg⟩ := Scan.blanks_eq_some h
  exact ⟨⟨g, hg⟩, rfl⟩

theorem WideGap.exists_of_blanks1 {s r : List Char} (h : Scan.blanks1 s = some ((), r)) :
    ∃ g : WideGap, s = g.1 ++ r := by
  obtain ⟨g, rfl, hg⟩ := Scan.blanks1_eq_some h
  exact ⟨⟨g, hg⟩, rfl⟩

theorem Gap.star_not_mem (g : Gap) : '*' ∉ g.1 :=
  fun h => absurd (g.2 '*' h) (by decide)

theorem WideGap.star_not_mem (g : WideGap) : '*' ∉ g.1 :=
  fun h => absurd (g.2.2 '*' h) (by decide)

end KnitPattern.Text
