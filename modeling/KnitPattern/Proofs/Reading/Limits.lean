/-
  Limits leave alone what stays within them. If nothing that is reported on a pattern is due to
  the limits, the same pattern is read under higher ones (`unaltered_by_limits`): the two readings
  keep in step, draft by draft (`run_of_widened`). What is remarked about a round without
  instructions is lost with its row, so one exception is left, a repeat block of nothing that is
  no longer clamped and has more copies than can be counted.
-/
import KnitPattern.Proofs.Body.Limits
import KnitPattern.Proofs.Reading.Halts
import KnitPattern.Proofs.Round.Canonical

namespace KnitPattern

open Text

/-! ## What is reported -/

/-- The round has no row for the limit on stitches. -/
def Problem.ofLimits : Problem → Bool
  | round _ why => why.ofLimits
  | line _ _ | noted _ => false

/-- The remark is due to a limit. -/
def Advice.ofLimits : Advice → Bool
  | round _ remark => remark.ofLimits
  | noted _ => false

/-- The advice is a remark made in reading about a round whose name has no colon. -/
inductive Advice.Made : Advice → Prop
  | round {label : String} {remark : Body.Remark} (named : ':' ∉ label.toList)
      (made : remark.Made) : Made (.round label remark)

/-- Advice that reads alike is due to the limits alike. -/
theorem Advice.ofLimits_of_message {a b : Advice} (ha : a.Made) (hb : b.Made)
    (h : a.message = b.message) : a.ofLimits = b.ofLimits := by
  -- the colon after the name of the round is the first one
  have hremark : ∀ {label : String} (remark : Body.Remark), ':' ∉ label.toList →
      (round label remark).message.toList.dropWhile (· != ':') =
        ':' :: ' ' :: remark.message.toList := by
    intro label remark hlabel
    have hmessage : (round label remark).message = label ++ ": " ++ remark.message := rfl
    rw [hmessage, String.toList_append, String.toList_append, List.append_assoc,
      List.dropWhile_append_of_pos]
    · rfl
    · intro c hc
      exact bne_iff_ne.2 fun heq => hlabel (heq ▸ hc)
  cases ha with
  | @round label remark hlabel hmade =>
    cases hb with
    | @round label' remark' hlabel' hmade' =>
      have hsame : remark.message = remark'.message := by
        have hrest := hremark remark hlabel
        rw [h, hremark remark' hlabel'] at hrest
        exact (String.toList_inj.1 (by simpa using hrest)).symm
      show remark.ofLimits = remark'.ofLimits
      rw [Bool.eq_iff_iff, ← not_iff_not, Bool.not_eq_true, Bool.not_eq_true,
        ← Body.Remark.head?_message hmade, ← Body.Remark.head?_message hmade', hsame]

/-! ## Drafts -/

/-- What an extracted draft is called has no colon. -/
theorem Draft.Canonical.colon_notMem_label {d : Draft} (h : d.Canonical) :
    ':' ∉ d.label.toList := by
  obtain ⟨k, hk⟩ := h.keyword
  obtain ⟨n, hn, -, -⟩ := h.number
  have hlabel : d.label.toList = k.toString.toList ++ ' ' :: Nat.toDigits 10 n := by
    show (d.keyword ++ " " ++ toString d.number).toList = _
    rw [hk, hn, String.toList_append, String.toList_append, List.append_assoc]
    exact congrArg (k.toString.toList ++ ' ' :: ·) Nat.toList_repr
  have hkeyword : ':' ∉ k.toString.toList := by
    cases k <;> decide +kernel
  have hdigits : ':' ∉ Nat.toDigits 10 n := fun hmem =>
    absurd (Numeral.isDigit_toDigits n _ hmem) (by decide +kernel)
  rw [hlabel, List.mem_append, List.mem_cons]
  simp [hkeyword, hdigits]

namespace Progress

variable {ctx ctx' : Context} {p q : Progress} {d : Draft} {ds : List Draft}

theorem made_of_step (hd : ':' ∉ d.label.toList) (hp : ∀ a ∈ p.advice, a.Made)
    (h : p.step ctx d = .ok q) : ∀ a ∈ q.advice, a.Made := by
  obtain ⟨o, ho, rfl⟩ := step_eq_ok_iff.1 h
  cases ho with
  | unresolved => exact hp
  | overLimit => exact hp
  | empty => exact hp
  | row _ hexp =>
    refine List.forall_mem_append.2 ⟨hp, List.forall_mem_map.2 fun remark hremark => ?_⟩
    exact .round hd (Context.made_of_expand hexp remark hremark)

theorem made_of_run (hds : ∀ d ∈ ds, ':' ∉ d.label.toList) (hp : ∀ a ∈ p.advice, a.Made)
    (h : p.run ctx ds = .ok q) : ∀ a ∈ q.advice, a.Made := by
  induction ds generalizing p with
  | nil =>
    cases h
    exact hp
  | cons d ds ih =>
    obtain ⟨hd, hds⟩ := List.forall_mem_cons.1 hds
    obtain ⟨m, hstep, hrun⟩ := run_cons_eq_ok_iff.1 h
    exact ih hds (made_of_step hd hp hstep) hrun

/-! ## Steps and runs -/

/-- Nothing that is found wrong or remarked is due to the limits. -/
structure WithinLimits (p : Progress) : Prop where
  problems : ∀ b ∈ p.problems, b.ofLimits = false
  advice : ∀ a ∈ p.advice, a.ofLimits = false

theorem WithinLimits.of_run (hq : q.WithinLimits) (h : p.run ctx ds = .ok q) :
    p.WithinLimits where
  problems b hb := hq.problems b ((problems_prefix_of_run h).subset hb)
  advice a ha := hq.advice a ((advice_prefix_of_run h).subset ha)

/-- What becomes of a reading under higher limits: the same, or its end for too many copies in a
round that has no instructions. -/
def Keeps (read : Except Halt Progress) (q : Progress) : Prop :=
  read = .ok q ∨
    (read = .error .tooManyCopies ∧ ∃ label, Problem.round label .noInstructions ∈ q.problems)

section Widened

variable (w : ctx.Widened ctx') (hrepeats : 1 ≤ ctx.limits.repeats)
  (hstitches : 1 ≤ ctx.limits.stitches)
include w hrepeats hstitches

theorem step_of_widened (h : p.step ctx d = .ok q) (hq : q.WithinLimits) :
    Keeps (p.step ctx' d) q := by
  obtain ⟨o, ho, rfl⟩ := step_eq_ok_iff.1 h
  cases ho with
  | unresolved hfound => exact .inl (step_eq_ok_iff.2 ⟨_, .unresolved hfound, rfl⟩)
  | @overLimit body why hfound hexp =>
    have hnot := hq.problems (.round d.label why) List.mem_concat_self
    have hdue : why.ofLimits = true := Context.ofLimits_of_expand hexp
    exact absurd hdue (Bool.eq_false_iff.1 hnot)
  | @empty body remarks hfound hexp =>
    rcases (Context.stays_of_widened w hrepeats hstitches hexp).empty rfl with ⟨_, hsame⟩ | hmany
    · exact .inl (step_eq_ok_iff.2 ⟨_, .empty hfound hsame, rfl⟩)
    · exact .inr ⟨step_eq_error_iff.2 (.inr ⟨body, hfound, hmany⟩), d.label,
        List.mem_concat_self⟩
  | row hfound hexp =>
    have hremarks := (List.forall_mem_append.1 hq.advice).2
    refine .inl (step_eq_ok_iff.2 ⟨_, .row hfound ?_, rfl⟩)
    exact (Context.stays_of_widened w hrepeats hstitches hexp).same (List.cons_ne_nil _ _)
      (List.forall_mem_map.1 hremarks)

theorem run_of_widened (h : p.run ctx ds = .ok q) (hq : q.WithinLimits) :
    Keeps (p.run ctx' ds) q := by
  induction ds generalizing p with
  | nil => exact .inl h
  | cons d ds ih =>
    obtain ⟨m, hstep, hrun⟩ := run_cons_eq_ok_iff.1 h
    rw [run_cons]
    rcases step_of_widened w hrepeats hstitches hstep (hq.of_run hrun) with
      hsame | ⟨hmany, label, hlabel⟩
    · rw [hsame]
      exact ih hrun
    · refine .inr ⟨?_, label, (problems_prefix_of_run hrun).subset hlabel⟩
      rw [hmany]
      rfl

end Widened

end Progress

/-! ## Whole patterns -/

namespace Pattern

/-- Of the advice that was made, that which is left tells what is due to the limits. -/
theorem withinLimits_of_ofProgress {last : Progress} (hmade : ∀ a ∈ last.advice, a.Made)
    (hproblems : ∀ b ∈ (ofProgress last).problems, b.ofLimits = false)
    (hadvice : ∀ a ∈ (ofProgress last).advice, a.ofLimits = false) : last.WithinLimits := by
  refine ⟨hproblems, fun a ha => ?_⟩
  have hsame : a.message ∈ (firstsBy Advice.message last.advice).map Advice.message :=
    mem_map_firstsBy.2 (List.mem_map_of_mem ha)
  obtain ⟨b, hb, hmessage⟩ := List.mem_map.1 hsame
  have hmem : b ∈ last.advice := firstsBy_sublist.subset hb
  rw [← Advice.ofLimits_of_message (hmade b hmem) (hmade a ha) hmessage]
  exact hadvice b hb

/-- A pattern that is read without anything that is due to the limits is read in the same way
under higher limits. The one exception is a limit on repeats of at least `2 ^ 63`, under which a
text that has a numeral as large and a round without instructions may halt for too many copies. -/
theorem unaltered_by_limits {text : String} {settings settings' : Settings}
    {heuristics : Heuristics} {glossary : Option Glossary} {starting : Option Int}
    {pat : Pattern} (hstarting : settings'.starting = settings.starting)
    (hglossary : settings'.glossary = settings.glossary)
    (hrepeats : settings.limits.repeats ≤ settings'.limits.repeats)
    (hstitches : settings.limits.stitches ≤ settings'.limits.stitches)
    (h : ofText text settings heuristics glossary starting = .ok pat)
    (hproblems : ∀ b ∈ pat.problems, b.ofLimits = false)
    (hadvice : ∀ a ∈ pat.advice, a.ofLimits = false) :
    (settings'.limits.repeats < Nat.pow 2 63 →
      ofText text settings' heuristics glossary starting = .ok pat) ∧
    (ofText text settings' heuristics glossary starting = .ok pat ∨
      ofText text settings' heuristics glossary starting = .error .tooManyCopies ∧
        (∃ ds, DigitRun ds text.toList ∧ Nat.pow 2 63 ≤ Numeral.value ds) ∧
        ∃ label, Problem.round label .noInstructions ∈ pat.problems) := by
  obtain ⟨e, last, he, hrun, rfl⟩ := ofText_eq_ok_iff.1 h
  have hmade : ∀ a ∈ last.advice, a.Made := by
    refine Progress.made_of_run (fun d hd => ?_) (List.forall_mem_nil _) hrun
    have hd := (Draft.sort_perm e.drafts).mem_iff.1 hd
    exact (Extraction.canonical_of_mem_ofText he d hd).colon_notMem_label
  have w : (context settings heuristics glossary).Widened
      (context settings' heuristics glossary) := by
    refine ⟨?_, rfl, hrepeats, hstitches⟩
    show glossary.getD settings'.glossary = glossary.getD settings.glossary
    rw [hglossary]
  have hkeeps := Progress.run_of_widened w settings.one_le_repeats settings.one_le_stitches hrun
    (withinLimits_of_ofProgress hmade hproblems hadvice)
  rw [← hstarting] at hkeeps
  have hmany : ofText text settings' heuristics glossary starting = .error .tooManyCopies →
      (∃ ds, DigitRun ds text.toList ∧ Nat.pow 2 63 ≤ Numeral.value ds) ∧
        (Nat.pow 2 63 : Int) ≤ settings'.limits.repeats := by
    intro hhalt
    cases due_of_ofText hhalt with
    | numeral hlong =>
      obtain ⟨ds, -, -, heq⟩ := hlong
      cases heq
    | copies hds hnumeral hlimit => exact ⟨⟨_, hds, hnumeral⟩, hlimit⟩
  rcases hkeeps with hsame | ⟨hhalt, hlabel⟩
  · have hread := ofText_eq_ok_iff.2 ⟨e, last, he, hsame, rfl⟩
    exact ⟨fun _ => hread, .inl hread⟩
  · have hread : ofText text settings' heuristics glossary starting = .error .tooManyCopies := by
      exact bind_eq_error_iff.2 (.inr ⟨e, he, bind_eq_error_iff.2 (.inl hhalt)⟩)
    obtain ⟨hnumeral, hlimit⟩ := hmany hread
    exact ⟨fun hlow => absurd hlow (Int.not_lt.2 hlimit), .inr ⟨hread, hnumeral, hlabel⟩⟩

/-- A block with as many copies as the lower limits allow and an instruction to knit around as
many stitches, beside rounds that are rejected and remarked about for other reasons. -/
theorem unaltered_by_limits_just_met :
    let text := "Rnd 1: *k2tog, yo* rep from * 2 times\nRnd 2: k around\nRnd 3: ,\n" ++
      "Rnd 4: see Rnd 9\nRnd 5: zz"
    ∃ pat, ofText text { limits := ⟨2, 6⟩ } .bundled none (some 6) = .ok pat ∧
      (pat.rows.map Row.endCount, pat.problems.length, pat.advice.length) = ([6, 6, 6], 2, 1) ∧
      ofText text { limits := ⟨7, 100⟩ } .bundled none (some 6) = .ok pat := by
  intro text
  have hread : (ofText text { limits := ⟨2, 6⟩ } .bundled none (some 6)).toOption.map (fun pat =>
      ((pat.rows.map Row.endCount, pat.problems.length, pat.advice.length),
        pat.problems.any Problem.ofLimits, pat.advice.any Advice.ofLimits)) =
      some (([6, 6, 6], 2, 1), false, false) := by
    decide +kernel
  cases h : ofText text { limits := ⟨2, 6⟩ } .bundled none (some 6) with
  | error why =>
    rw [h] at hread
    cases hread
  | ok pat =>
    rw [h] at hread
    obtain ⟨hcounts, hrest⟩ := Prod.ext_iff.1 (Option.some.inj hread)
    obtain ⟨hproblems, hadvice⟩ := Prod.ext_iff.1 hrest
    refine ⟨pat, rfl, hcounts, ?_⟩
    have hsame := @unaltered_by_limits text { limits := ⟨2, 6⟩ } { limits := ⟨7, 100⟩ } .bundled
      none (some 6) pat rfl rfl (by decide) (by decide) h (by simpa using hproblems)
      (by simpa using hadvice)
    exact hsame.1 (by decide)

/-- Under the default limits the block is clamped and nothing is said of it, since the round has
no instructions; under a higher limit on repeats the reading halts. -/
theorem altered_by_uncountable_copies :
    let text := "Rnd 1: *,* rep from * 9223372036854775808 times"
    (∃ pat, ofText text = .ok pat ∧ pat.rows = [] ∧
      pat.problems = [.round "Rnd 1" .noInstructions] ∧ pat.advice = []) ∧
      ofText text { limits := ⟨9223372036854775808, 10000⟩ } = .error .tooManyCopies := by
  intro text
  have hread : (ofText text).toOption.map (fun pat => (pat.rows, pat.problems, pat.advice)) =
      some ([], [.round "Rnd 1" .noInstructions], []) := by
    decide +kernel
  have hhalt : (match ofText text { limits := ⟨9223372036854775808, 10000⟩ } with
    | .error why => some why
    | .ok _ => none) = some .tooManyCopies := by
    decide +kernel
  constructor
  · cases h : ofText text with
    | error why =>
      rw [h] at hread
      cases hread
    | ok pat =>
      rw [h] at hread
      obtain ⟨hrows, hrest⟩ := Prod.ext_iff.1 (Option.some.inj hread)
      obtain ⟨hproblems, hadvice⟩ := Prod.ext_iff.1 hrest
      exact ⟨pat, rfl, hrows, hproblems, hadvice⟩
  · split at hhalt
    · next why hwhy => rw [hwhy, Option.some.inj hhalt]
    · cases hhalt

end Pattern

end KnitPattern
