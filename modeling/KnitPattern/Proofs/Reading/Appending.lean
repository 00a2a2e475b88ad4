/-
  A pattern that is continued. Rounds that are written below a text, with numbers that are not
  smaller than those in it, are read after its rounds, from the progress that these left. So the
  rows of the text and its advice stand at the front of those of the whole
  (`extends_of_ofText_append`), and what is shown of a pattern stays as it grows.
-/
import KnitPattern.Proofs.Reading.Account
import KnitPattern.Proofs.Round.Appending

namespace KnitPattern

/-- Remarks that are made later take nothing from those made before. -/
theorem firstsBy_prefix {α β : Type} [DecidableEq β] (f : α → β) (as bs : List α) :
    firstsBy f as <+: firstsBy f (as ++ bs) := by
  rw [firstsBy_append]
  exact List.prefix_append _ _

/-- The pattern begins with the rows and with the advice of another one. -/
structure Pattern.Extends (pat first : Pattern) : Prop where
  rows : first.rows <+: pat.rows
  advice : first.advice <+: pat.advice

namespace Pattern

/-- What is read after a progress leaves its rows and its advice in place. -/
theorem extends_of_run {ctx : Context} {p q : Progress} {ds : List Draft}
    (h : p.run ctx ds = .ok q) : (ofProgress q).Extends (ofProgress p) := by
  obtain ⟨rows, problems, advice, hrows, -, hadvice, -⟩ := Progress.account_of_run h
  constructor
  · show p.rows <+: q.rows
    rw [hrows]
    exact List.prefix_append _ _
  · show firstsBy Advice.message p.advice <+: firstsBy Advice.message q.advice
    rw [hadvice]
    exact firstsBy_prefix _ _ _

/-- The drafts of an extraction are read before those that are put after it, if these have no
smaller numbers. -/
theorem extends_of_ofExtraction {ctx : Context} {starting : Int} {a b : Extraction}
    {pat : Pattern} (hlater : ∀ d ∈ a.drafts, ∀ e ∈ b.drafts, d.number ≤ e.number)
    (h : ofExtraction ctx starting (a.append b) = .ok pat) :
    ∃ first, ofExtraction ctx starting a = .ok first ∧ pat.Extends first := by
  obtain ⟨last, hlast, heq⟩ := bind_eq_ok_iff.1 h
  cases heq
  have hsort : Draft.sort (a.append b).drafts = Draft.sort a.drafts ++ Draft.sort b.drafts :=
    Draft.sort_append hlater
  rw [hsort, start_eq_after starting _ a.drafts, Progress.run_append_eq_ok_iff,
    Progress.run_after] at hlast
  obtain ⟨m, hm, hrest⟩ := hlast
  -- the faults of the lines below are known from the start, and nothing depends on them
  cases hfirst : (start starting ⟨a.drafts, []⟩).run ctx (Draft.sort a.drafts) with
  | error why =>
    rw [hfirst] at hm
    cases hm
  | ok p =>
    rw [hfirst] at hm
    cases hm
    refine ⟨ofProgress (p.after a.problems), ?_, ?_⟩
    · unfold ofExtraction
      rw [start_eq_after starting a a.drafts, Progress.run_after, hfirst]
      rfl
    · obtain ⟨hrows, hadvice⟩ := extends_of_run hrest
      exact ⟨hrows, hadvice⟩

/-- Rounds below a text do not disturb the rows of the text. Where the text below begins with a
line that starts a round, and has no smaller numbers, a pattern of both together begins with
the rows and with the advice of the text above, which then is read too. -/
theorem extends_of_ofText_append {s t : String} {settings : Settings} {heuristics : Heuristics}
    {glossary : Option Glossary} {starting : Option Int} {pat : Pattern}
    (hstart : ∀ l ∈ (Line.significant t.toList).head?, l.isStart = true)
    (hlater : ∀ a b, Extraction.ofText s = .ok a → Extraction.ofText t = .ok b →
      ∀ d ∈ a.drafts, ∀ e ∈ b.drafts, d.number ≤ e.number)
    (h : ofText (s ++ "\n" ++ t) settings heuristics glossary starting = .ok pat) :
    ∃ first, ofText s settings heuristics glossary starting = .ok first ∧
      first.rows <+: pat.rows ∧ first.advice <+: pat.advice := by
  obtain ⟨k, happend⟩ := Extraction.ofText_append (s := s) hstart
  unfold ofText at h ⊢
  rw [happend] at h
  obtain ⟨e, he, hread⟩ := bind_eq_ok_iff.1 h
  obtain ⟨a, ha, he⟩ := bind_eq_ok_iff.1 he
  obtain ⟨b, hb, he⟩ := bind_eq_ok_iff.1 he
  cases he
  have hshifted : ∀ d ∈ a.drafts, ∀ e ∈ (b.shift k).drafts, d.number ≤ e.number := by
    intro d hd e he
    obtain ⟨e', he', rfl⟩ := List.mem_map.1 he
    exact hlater a b ha hb d hd e' he'
  obtain ⟨first, hfirst, hextends⟩ := extends_of_ofExtraction hshifted hread
  rw [ha]
  exact ⟨first, hfirst, hextends.rows, hextends.advice⟩

/-- A text that ends with a carriage return, and below it a note, the same round once more, and a
round that is rejected. -/
theorem extends_of_ofText_append_note :
    let above := "Rnd 1: *k1, foo* rep from * 2 times\r"
    let below := "\n note: go on\nRnd 1: foo\nRnd 3: see Rnd 7"
    ∃ pat first, ofText (above ++ "\n" ++ below) = .ok pat ∧ ofText above = .ok first ∧
      first.rows.length = 1 ∧ pat.rows.length = 2 ∧ pat.problems.length = 1 ∧
      first.rows <+: pat.rows ∧ first.advice <+: pat.advice := by
  intro above below
  have habove : Extraction.ofText above = .ok ⟨[⟨1, "*k1, foo* rep from * 2 times",
      "Rnd 1: *k1, foo* rep from * 2 times", "Rnd", 1⟩], []⟩ := by
    decide +kernel
  have hbelow : Extraction.ofText below = .ok ⟨[⟨1, "foo", "Rnd 1: foo", "Rnd", 3⟩,
      ⟨3, "see Rnd 7", "Rnd 3: see Rnd 7", "Rnd", 4⟩], []⟩ := by
    decide +kernel
  have hstart : ∀ l ∈ (Line.significant below.toList).head?, l.isStart = true := by
    have hhead : (Line.significant below.toList).head? = some ⟨3, "Rnd 1: foo".toList⟩ := by
      decide +kernel
    rw [hhead]
    rintro l ⟨⟩
    decide +kernel
  have hlater : ∀ a b, Extraction.ofText above = .ok a → Extraction.ofText below = .ok b →
      ∀ d ∈ a.drafts, ∀ e ∈ b.drafts, d.number ≤ e.number := by
    intro a b ha hb
    cases habove.symm.trans ha
    cases hbelow.symm.trans hb
    decide
  have hread : (ofText (above ++ "\n" ++ below)).toOption.map
      (fun pat => (pat.rows.length, pat.problems.length)) = some (2, 1) := by
    decide +kernel
  cases h : ofText (above ++ "\n" ++ below) with
  | error why =>
    rw [h] at hread
    cases hread
  | ok pat =>
    rw [h] at hread
    obtain ⟨hrows, hproblems⟩ := Prod.mk.inj (Option.some.inj hread)
    obtain ⟨first, hfirst, hprefix⟩ := extends_of_ofText_append hstart hlater h
    have hone : (ofText above).toOption.map (·.rows.length) = some 1 := by
      decide +kernel
    rw [hfirst] at hone
    exact ⟨pat, first, rfl, hfirst, Option.some.inj hone, hrows, hproblems, hprefix⟩

end Pattern

end KnitPattern
