/-
  Reading a pattern from its canonical form. A reading uses the number, the body and the word of
  a draft; the text as written only goes into the row (`run_bare`). So a pattern whose rounds
  are rendered one to a line has the same rows but for that text, the same advice, and the same
  problems but for those of lines (`ofExtraction_bare`).
-/
import KnitPattern.Proofs.Reading.Run
import KnitPattern.Proofs.Round.Canonical
import KnitPattern.Proofs.Round.Order

namespace KnitPattern

/-! ## The text of a draft as written -/

/-- A draft without the text as written and its line. -/
def Draft.bare (d : Draft) : Draft :=
  { d with raw := "", line := 0 }

theorem Draft.bare_placed (d : Draft) (line : Nat) : (d.placed line).bare = d.bare := by
  rw [placed, bare, bare]

/-- A row without the text as written. -/
def Row.bare (r : Row) : Row :=
  { r with raw := "" }

def Outcome.bare : Outcome → Outcome
  | row r body remarks => row r.bare body remarks
  | rejected why body => rejected why body

def Progress.bare (p : Progress) : Progress :=
  { p with rows := p.rows.map Row.bare }

def Pattern.bare (p : Pattern) : Pattern :=
  { p with rows := p.rows.map Row.bare }

namespace Progress

variable {ctx : Context}

theorem outcome_bare (p : Progress) (d : Draft) :
    p.bare.outcome ctx d.bare = (p.outcome ctx d).map Outcome.bare := by
  have hindex : p.bare.rows.length = p.rows.length := List.length_map Row.bare
  have hresolve : d.bare.resolve p.bodies = d.resolve p.bodies := rfl
  show ctx.outcome p.live p.bodies p.bare.rows.length d.bare = _
  rw [hindex, outcome, Context.outcome, Context.outcome, hresolve]
  cases d.resolve p.bodies with
  | error stop => cases stop <;> rfl
  | ok body =>
    dsimp only
    unfold Context.outcomeOfBody
    cases ctx.expand p.live body with
    | error stop => cases stop <;> rfl
    | ok expansion =>
      obtain ⟨ops, remarks⟩ := expansion
      cases ops <;> rfl

theorem step_bare (p : Progress) (d : Draft) :
    p.bare.step ctx d.bare = (p.step ctx d).map bare := by
  rw [step, step, outcome_bare]
  cases p.outcome ctx d with
  | error why => rfl
  | ok o =>
    cases o with
    | row row body remarks =>
      show Except.ok (p.bare.add d.bare (.row row.bare body remarks)) =
        Except.ok (p.add d (.row row body remarks)).bare
      simp [add, bare, Row.bare, Draft.bare, Draft.label]
    | rejected why body => rfl

theorem run_bare (p : Progress) (ds : List Draft) :
    p.bare.run ctx (ds.map Draft.bare) = (p.run ctx ds).map bare :=
  run_map step_bare p ds

end Progress

/-! ## Whole patterns -/

namespace Pattern

/-- The pattern of an extraction, with no regard for the texts as written, is that of any other
one of the same drafts; the faults of lines only come before the other problems. -/
theorem ofExtraction_bare (ctx : Context) (starting : Int) {e : Extraction} {ds : List Draft}
    (h : ds.map Draft.bare = e.drafts.map Draft.bare) :
    (ofExtraction ctx starting e).map bare =
      (ofExtraction ctx starting ⟨ds, []⟩).map fun p =>
        { p.bare with problems := e.problems ++ p.problems } := by
  have hsort : (Draft.sort ds).map Draft.bare = (Draft.sort e.drafts).map Draft.bare := by
    rw [← Draft.sort_map (f := Draft.bare) (fun _ => rfl),
      ← Draft.sort_map (f := Draft.bare) (fun _ => rfl), h]
  -- both runs are the run of the drafts without their texts
  have hrun : _ = ((start starting ⟨ds, []⟩).run ctx (Draft.sort ds)).map Progress.bare :=
    Progress.run_bare (start starting ⟨ds, []⟩) (Draft.sort ds)
  rw [hsort, Progress.run_bare] at hrun
  have hpattern : ∀ p : Progress, (ofProgress (p.after e.problems)).bare =
      { (ofProgress p.bare) with problems := e.problems ++ p.bare.problems } := fun _ => rfl
  unfold ofExtraction
  rw [start_eq_after starting e ds, Progress.run_after]
  cases hq : (start starting ⟨ds, []⟩).run ctx (Draft.sort e.drafts) with
  | error why =>
    rw [hq] at hrun
    cases hr : (start starting ⟨ds, []⟩).run ctx (Draft.sort ds) with
    | error why' =>
      rw [hr] at hrun
      cases hrun
      rfl
    | ok r =>
      rw [hr] at hrun
      cases hrun
  | ok q =>
    rw [hq] at hrun
    cases hr : (start starting ⟨ds, []⟩).run ctx (Draft.sort ds) with
    | error why' =>
      rw [hr] at hrun
      cases hrun
    | ok r =>
      rw [hr] at hrun
      have hbare : q.bare = r.bare := Except.ok.inj hrun
      show Except.ok (ofProgress (q.after e.problems)).bare = Except.ok _
      rw [hpattern, hbare]
      rfl

/-- Every text has a canonical form: its drafts rendered one to a line. They are extracted again
from their own lines, with no fault, and read as before. -/
theorem canonical_form {text : String} {e : Extraction} (h : Extraction.ofText text = .ok e) :
    (∀ d ∈ e.drafts, Text.oneSpaced d.body.toList = d.body.toList ∧
      (Section.ofLine d.body.toList).2 = [] ∧ 0 < d.number ∧
        (d.keyword = "Rnd" ∨ d.keyword = "Row")) ∧
    Extraction.ofText (Draft.render e.drafts) =
      .ok ⟨(e.drafts.zipIdx 1).map fun p => p.1.placed p.2, []⟩ ∧
    ∀ settings heuristics glossary starting,
      (ofText text settings heuristics glossary starting).map bare =
        (ofText (Draft.render e.drafts) settings heuristics glossary starting).map fun p =>
          { p.bare with problems := e.problems ++ p.problems } := by
  have hcanonical := Extraction.canonical_of_mem_ofText h
  have hrender := Draft.ofText_render hcanonical
  refine ⟨fun d hd => ?_, hrender, ?_⟩
  · have hd := hcanonical d hd
    obtain ⟨k, hk⟩ := hd.keyword
    obtain ⟨n, hn, hpos, -⟩ := hd.number
    refine ⟨hd.spaced, congrArg Prod.snd hd.headless.cut_eq, by omega, ?_⟩
    cases k with
    | rnd => exact .inl hk
    | row => exact .inr hk
  · intro settings heuristics glossary starting
    have hbare : ((e.drafts.zipIdx 1).map fun p => p.1.placed p.2).map Draft.bare =
        e.drafts.map Draft.bare := by
      have hplaced : (Draft.bare ∘ fun p : Draft × Nat => p.1.placed p.2) =
          Draft.bare ∘ Prod.fst := funext fun p => Draft.bare_placed p.1 p.2
      rw [List.map_map, hplaced, ← List.map_map, List.zipIdx_map_fst]
    unfold ofText
    rw [h, hrender]
    exact ofExtraction_bare _ _ hbare

/-- A pattern with a stray line, two headers on a line, two numbers in one header and a header
without a positive number. -/
theorem canonical_form_of_strays :
    let text := "cast on\nRnds 1, 3:  k2 ,\tp2 Row 2: see Rnd 1\nRnd 0: k1\n p1"
    let rendered := "Rnd 1: k2 , p2\nRnd 3: k2 , p2\nRow 2: see Rnd 1"
    ∃ e, Extraction.ofText text = .ok e ∧ Draft.render e.drafts = rendered ∧
      e.faults.length = 2 ∧
      Extraction.ofText rendered = .ok ⟨(e.drafts.zipIdx 1).map fun p => p.1.placed p.2, []⟩ ∧
      (ofText text).map bare =
        (ofText rendered).map fun p => { p.bare with problems := e.problems ++ p.problems } := by
  intro text rendered
  have h : Extraction.ofText text = .ok ⟨
      [⟨1, "k2 , p2", "Rnds 1, 3:  k2 ,\tp2", "Rnd", 2⟩,
        ⟨3, "k2 , p2", "Rnds 1, 3:  k2 ,\tp2", "Rnd", 2⟩,
        ⟨2, "see Rnd 1", "Row 2: see Rnd 1", "Row", 2⟩],
      [(1, .stray), (3, .noNumber "Rnd 0:".toList)]⟩ := by decide +kernel
  obtain ⟨-, hextract, hread⟩ := canonical_form h
  exact ⟨_, h, by decide +kernel, rfl, hextract, hread {} .bundled none none⟩

end Pattern

end KnitPattern
