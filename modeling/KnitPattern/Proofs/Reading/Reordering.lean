/-
  The order in which rounds are written. A reading looks at the drafts of a text in the order of
  their numbers, and never at their lines (`run_lineless`). So texts with the same drafts, those
  of one number in the same order (`Draft.Reordered`), are read alike, but for the faults of
  their lines; and the rows stand in the order of their numbers, those of one number in the
  order of the text.
-/
import KnitPattern.Proofs.Reading.Account

namespace KnitPattern

namespace Draft

/-- A draft without its line. -/
def lineless (d : Draft) : Draft :=
  { d with line := 0 }

/-- The same drafts but for their lines, those of one number in the same order. -/
def Reordered (ds es : List Draft) : Prop :=
  ∀ n, numbered n (ds.map lineless) = numbered n (es.map lineless)

variable {ds es : List Draft}

theorem reordered_iff :
    Reordered ds es ↔ (sort ds).map lineless = (sort es).map lineless := by
  rw [← sort_map (f := lineless) fun _ => rfl, ← sort_map (f := lineless) fun _ => rfl]
  constructor
  · exact sort_eq_sort
  · intro h n
    rw [← numbered_sort n (ds.map lineless), h, numbered_sort]

end Draft

/-! ## Lines do not count -/

namespace Progress

variable {ctx : Context}

theorem step_lineless (p : Progress) (d : Draft) : p.step ctx d.lineless = p.step ctx d := by
  have houtcome : p.outcome ctx d.lineless = p.outcome ctx d := rfl
  have hadd : ∀ o, p.add d.lineless o = p.add d o := by
    intro o
    cases o <;> rfl
  unfold step
  rw [houtcome]
  simp only [hadd]

theorem run_lineless (p : Progress) (ds : List Draft) :
    p.run ctx (ds.map Draft.lineless) = p.run ctx ds := by
  induction ds generalizing p with
  | nil => rfl
  | cons d ds ih =>
    rw [List.map_cons, run_cons, run_cons, step_lineless]
    simp only [ih]

theorem run_sort_of_reordered {ds es : List Draft} (h : Draft.Reordered ds es) (p : Progress) :
    p.run ctx (Draft.sort ds) = p.run ctx (Draft.sort es) := by
  rw [← run_lineless p (Draft.sort ds), Draft.reordered_iff.1 h, run_lineless]

end Progress

/-! ## Whole patterns -/

/-- The rows are in the order of their numbers, and those of one number are named for drafts of
that number in the order of the text. -/
structure Pattern.InOrder (pat : Pattern) (ds : List Draft) : Prop where
  ascending : pat.rows.Pairwise fun r s => r.number ≤ s.number
  textual : ∀ n, ∃ done, done.Sublist (Draft.numbered n ds) ∧
    List.Forall₂ Row.IsFor (pat.rows.filter (·.number = n)) done

namespace Pattern

variable {text : String} {settings : Settings} {heuristics : Heuristics}
  {glossary : Option Glossary} {starting : Option Int}

theorem inOrder {pat : Pattern} {e : Extraction}
    (h : ofText text settings heuristics glossary starting = .ok pat)
    (he : Extraction.ofText text = .ok e) : pat.InOrder e.drafts := by
  obtain ⟨_, _, -, -, haccounts⟩ := accounts_of_ofText h he
  obtain ⟨done, hdone, hrows⟩ := haccounts.exists_sublist
  constructor
  · have hnumbers : pat.rows.map Row.number = done.map Draft.number := by
      rw [← List.forall₂_eq_eq_eq, List.forall₂_map_left_iff, List.forall₂_map_right_iff]
      exact hrows.imp fun _ _ hr => hr.number
    have hsorted := (Draft.pairwise_sort e.drafts).sublist hdone
    rw [← List.pairwise_map (f := Draft.number) (R := (· ≤ ·)), ← hnumbers,
      List.pairwise_map] at hsorted
    exact hsorted
  · intro n
    refine ⟨Draft.numbered n done, ?_, ?_⟩
    · rw [← Draft.numbered_sort n e.drafts]
      exact hdone.filter _
    · refine List.rel_filter (R := Row.IsFor) (fun r d hr => ?_) hrows
      show decide (r.number = n) = true ↔ decide (d.number = n) = true
      rw [hr.number]

theorem ofText_eq_map_after {e : Extraction} (he : Extraction.ofText text = .ok e) :
    ofText text settings heuristics glossary starting =
      (ofExtraction (context settings heuristics glossary)
        (starting.getD settings.starting) ⟨e.drafts, []⟩).map (after e.problems) := by
  rw [← ofExtraction_eq_after, ofText, he]
  rfl

theorem ofExtraction_of_reordered {ctx : Context} {n : Int} {e₁ e₂ : Extraction}
    (h : Draft.Reordered e₁.drafts e₂.drafts) :
    ofExtraction ctx n ⟨e₁.drafts, []⟩ = ofExtraction ctx n ⟨e₂.drafts, []⟩ := by
  unfold ofExtraction
  rw [Progress.run_sort_of_reordered h]
  rfl

/-- The order in which rounds are written does not matter: two texts with the same drafts, those
of one number in the same order, give one and the same pattern, after the faults of their own
lines. Its rows are in the order of their numbers, and for one number in that of either text. -/
theorem order_of_rounds {text₁ text₂ : String} {e₁ e₂ : Extraction}
    (h₁ : Extraction.ofText text₁ = .ok e₁) (h₂ : Extraction.ofText text₂ = .ok e₂)
    (h : Draft.Reordered e₁.drafts e₂.drafts) (settings : Settings) (heuristics : Heuristics)
    (glossary : Option Glossary) (starting : Option Int) :
    ∃ read : Except Halt Pattern,
      ofText text₁ settings heuristics glossary starting = read.map (after e₁.problems) ∧
      ofText text₂ settings heuristics glossary starting = read.map (after e₂.problems) ∧
      ∀ pat, read = .ok pat → pat.InOrder e₁.drafts ∧ pat.InOrder e₂.drafts := by
  have hread₁ : ofText text₁ settings heuristics glossary starting = _ := ofText_eq_map_after h₁
  have hread₂ : ofText text₂ settings heuristics glossary starting = _ := ofText_eq_map_after h₂
  rw [← ofExtraction_of_reordered h] at hread₂
  refine ⟨_, hread₁, hread₂, fun pat hpat => ?_⟩
  rw [hpat] at hread₁ hread₂
  -- the faults of lines have no part in the order of the rows
  obtain ⟨hascending, htextual₁⟩ := inOrder hread₁ h₁
  obtain ⟨-, htextual₂⟩ := inOrder hread₂ h₂
  exact ⟨⟨hascending, htextual₁⟩, ⟨hascending, htextual₂⟩⟩

/-- A round with a continuation is moved behind another one, and a stray line is added. -/
theorem order_of_rounds_of_continued :
    let text₁ := "Rnd 2: k2,\n p2\nRnd 1: k1\nRnd 2: yo"
    let text₂ := "cast on\nRnd 1: k1\n\nRnd 2: k2,\n p2\nRnd 2: yo"
    ∃ e₁ e₂, Extraction.ofText text₁ = .ok e₁ ∧ Extraction.ofText text₂ = .ok e₂ ∧
      Draft.Reordered e₁.drafts e₂.drafts ∧
      ofText text₂ = (ofText text₁).map (after [.line 1 .stray]) := by
  intro text₁ text₂
  have h₁ : Extraction.ofText text₁ = .ok ⟨[⟨2, "k2, p2", "Rnd 2: k2, p2", "Rnd", 1⟩,
      ⟨1, "k1", "Rnd 1: k1", "Rnd", 3⟩, ⟨2, "yo", "Rnd 2: yo", "Rnd", 4⟩], []⟩ := by
    decide +kernel
  have h₂ : Extraction.ofText text₂ = .ok ⟨[⟨1, "k1", "Rnd 1: k1", "Rnd", 2⟩,
      ⟨2, "k2, p2", "Rnd 2: k2, p2", "Rnd", 4⟩, ⟨2, "yo", "Rnd 2: yo", "Rnd", 6⟩],
      [(1, .stray)]⟩ := by
    decide +kernel
  refine ⟨_, _, h₁, h₂, Draft.reordered_iff.2 (by decide), ?_⟩
  obtain ⟨read, hread₁, hread₂, -⟩ :=
    order_of_rounds h₁ h₂ (Draft.reordered_iff.2 (by decide)) {} .bundled none none
  rw [hread₁, hread₂]
  cases read <;> rfl

end Pattern

end KnitPattern
