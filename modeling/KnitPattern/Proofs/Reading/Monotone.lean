/-
  Readings from two starting counts. Where no round is rejected for the limit on stitches, the live
  count decides nothing but how far an instruction to knit around reaches. So two readings of the
  same drafts, of which the second starts with no fewer stitches, keep abreast (`Below`): they have
  rows for the same drafts, and what the second has more at the start of a row is not more at its
  end, where a count is cut off at zero. `yieldsBoth` says what a draft adds to both readings.
-/
import KnitPattern.Proofs.Body.TwoCounts
import KnitPattern.Proofs.Reading.Continuity
import KnitPattern.Proofs.Reading.Limits

namespace KnitPattern

/-! ## One draft at two counts -/

/-- The two rows are of one draft, and the second has no fewer stitches; what it has more at the
start of the row is not more at its end. -/
structure Row.Below (r r' : Row) : Prop where
  id : r'.id = r.id
  label : r'.label = r.label
  raw : r'.raw = r.raw
  start : r.startCount ≤ r'.startCount
  finish : 0 ≤ (r'.endCount : Int) - r.endCount
  gap : (r'.endCount : Int) - r.endCount ≤ r'.startCount - r.startCount

theorem Row.below_ofOperations {d : Draft} {ops ops' : List Operation} {live live' : Int}
    (hle : live ≤ live') (hops : List.Forall₂ Operation.Matches ops ops') (index : Int) :
    (ofOperations d ops live index).Below (ofOperations d ops' live' index) := by
  have hdelta := Operation.totalDelta_eq_of_matches hops
  refine ⟨rfl, rfl, rfl, hle, ?_, ?_⟩ <;> simp only [ofOperations, hdelta] <;> omega

/-- What a draft adds to two readings at two live counts: the same rejection, or rows with
operations that match. -/
inductive Context.YieldsBoth (ctx : Context) (live live' : Int) (bodies : Bodies) (index : Int)
    (d : Draft) : Outcome → Outcome → Prop
  | rejected (why : Rejection) (body : Option String) :
      YieldsBoth ctx live live' bodies index d (.rejected why body) (.rejected why body)
  | row {body : String} {op op' : Operation} {ops ops' : List Operation}
      {remarks : List Body.Remark} (found : d.resolve bodies = .ok body)
      (expanded : ctx.expand live body = .ok ⟨op :: ops, remarks⟩)
      (expanded' : ctx.expand live' body = .ok ⟨op' :: ops', remarks⟩)
      (matched : List.Forall₂ Operation.Matches (op :: ops) (op' :: ops')) :
      YieldsBoth ctx live live' bodies index d
        (.row (.ofOperations d (op :: ops) live index) body remarks)
        (.row (.ofOperations d (op' :: ops') live' index) body remarks)

theorem Context.yieldsBoth {ctx : Context} {live live' : Int} {bodies : Bodies} {index : Int}
    {d : Draft} {o o' : Outcome} (ho : ctx.Yields live bodies index d o)
    (ho' : ctx.Yields live' bodies index d o') (hwhy : ∀ why ∈ o.rejection?, why.ofLimits = false)
    (hwhy' : ∀ why ∈ o'.rejection?, why.ofLimits = false) :
    ctx.YieldsBoth live live' bodies index d o o' := by
  cases ho with
  | unresolved hfound =>
    cases ho' with
    | unresolved hfound' =>
      cases hfound.symm.trans hfound'
      exact .rejected _ _
    | overLimit hfound' | empty hfound' | row hfound' => cases hfound.symm.trans hfound'
  | overLimit _ hexp => simp [Outcome.rejection?, ofLimits_of_expand hexp] at hwhy
  | empty hfound hexp =>
    cases ho' with
    | unresolved hfound' => cases hfound.symm.trans hfound'
    | overLimit _ hexp' => simp [Outcome.rejection?, ofLimits_of_expand hexp'] at hwhy'
    | empty hfound' =>
      cases hfound.symm.trans hfound'
      exact .rejected _ _
    | row hfound' hexp' =>
      cases hfound.symm.trans hfound'
      cases (matches_of_expand hexp hexp').1
  | row hfound hexp =>
    cases ho' with
    | unresolved hfound' => cases hfound.symm.trans hfound'
    | overLimit _ hexp' => simp [Outcome.rejection?, ofLimits_of_expand hexp'] at hwhy'
    | empty hfound' hexp' =>
      cases hfound.symm.trans hfound'
      cases (matches_of_expand hexp hexp').1
    | row hfound' hexp' =>
      cases hfound.symm.trans hfound'
      obtain ⟨hmatch, hremarks⟩ := matches_of_expand hexp hexp'
      obtain rfl : _ = _ := hremarks
      exact .row hfound hexp hexp' hmatch

/-! ## Two readings -/

namespace Progress

variable {ctx : Context} {p p' q q' : Progress} {d : Draft} {ds : List Draft}

/-- Two readings that have come to the same point, the second with no fewer stitches live. -/
structure Below (p p' : Progress) : Prop where
  live : p.live ≤ p'.live
  bodies : p'.bodies = p.bodies
  rows : List.Forall₂ Row.Below p.rows p'.rows
  problems : p'.problems = p.problems
  advice : p'.advice = p.advice

theorem exists_yieldsBoth (hp : p.Below p') (h : p.step ctx d = .ok q)
    (h' : p'.step ctx d = .ok q') (hq : ∀ b ∈ q.problems, b.ofLimits = false)
    (hq' : ∀ b ∈ q'.problems, b.ofLimits = false) :
    ∃ o o', ctx.YieldsBoth p.live p'.live p.bodies p.rows.length d o o' ∧ q = p.add d o ∧
      q' = p'.add d o' := by
  obtain ⟨o, ho, rfl⟩ := step_eq_ok_iff.1 h
  obtain ⟨o', ho', rfl⟩ := step_eq_ok_iff.1 h'
  rw [hp.bodies, ← hp.rows.length_eq] at ho'
  have hwhy : ∀ (k : Progress) (o : Outcome), (∀ b ∈ (k.add d o).problems, b.ofLimits = false) →
      ∀ why ∈ o.rejection?, why.ofLimits = false := by
    intro k o hk why hwhy
    cases o with
    | row row body remarks => cases hwhy
    | rejected why body =>
      cases hwhy
      exact hk (.round d.label why) List.mem_concat_self
  exact ⟨o, o', Context.yieldsBoth ho ho' (hwhy p o hq) (hwhy p' o' hq'), rfl, rfl⟩

theorem Below.add {o o' : Outcome} (hp : p.Below p')
    (ho : ctx.YieldsBoth p.live p'.live p.bodies p.rows.length d o o') :
    (p.add d o).Below (p'.add d o') := by
  cases ho with
  | rejected why body =>
    refine ⟨hp.live, ?_, hp.rows, ?_, hp.advice⟩
    · cases body <;> simp [Progress.add, hp.bodies]
    · simp [Progress.add, hp.problems]
  | @row body op op' ops ops' remarks _ _ _ hmatch =>
    have hrow := Row.below_ofOperations (d := d) (Int.ofNat_le.2 hp.live) hmatch p.rows.length
    refine ⟨Int.ofNat_le.1 (Int.sub_nonneg.1 hrow.finish), ?_,
      List.rel_append hp.rows (.cons hrow .nil), hp.problems, ?_⟩
    · simp [Progress.add, hp.bodies]
    · simp [Progress.add, hp.advice]

theorem Below.run (hp : p.Below p') (h : p.run ctx ds = .ok q) (h' : p'.run ctx ds = .ok q')
    (hq : ∀ b ∈ q.problems, b.ofLimits = false) (hq' : ∀ b ∈ q'.problems, b.ofLimits = false) :
    q.Below q' := by
  induction ds generalizing p p' with
  | nil =>
    cases h
    cases h'
    exact hp
  | cons d ds ih =>
    obtain ⟨m, hstep, hrun⟩ := run_cons_eq_ok_iff.1 h
    obtain ⟨m', hstep', hrun'⟩ := run_cons_eq_ok_iff.1 h'
    obtain ⟨o, o', hboth, rfl, rfl⟩ := exists_yieldsBoth hp hstep hstep'
      (fun b hb => hq b ((problems_prefix_of_run hrun).subset hb))
      (fun b hb => hq' b ((problems_prefix_of_run hrun').subset hb))
    exact ih (hp.add hboth) hrun hrun'

/-- The rows at one place are of one draft, with one body, and their operations match. -/
theorem exists_isRowOf_both (hp : p.Below p') (h : p.run ctx ds = .ok q)
    (h' : p'.run ctx ds = .ok q') (hq : ∀ b ∈ q.problems, b.ofLimits = false)
    (hq' : ∀ b ∈ q'.problems, b.ofLimits = false) {i : Nat} (hpi : p.rows.length ≤ i)
    (hi : i < q.rows.length) (hi' : i < q'.rows.length) :
    ∃ d body ops ops', IsRowOf ctx p ds (q.rows.take i) q.rows[i] d body ops ∧
      IsRowOf ctx p' ds (q'.rows.take i) q'.rows[i] d body ops' ∧
      List.Forall₂ Operation.Matches ops ops' := by
  induction ds generalizing p p' with
  | nil =>
    cases h
    omega
  | cons e ds ih =>
    obtain ⟨m, hstep, hrun⟩ := run_cons_eq_ok_iff.1 h
    obtain ⟨m', hstep', hrun'⟩ := run_cons_eq_ok_iff.1 h'
    obtain ⟨o, o', hboth, rfl, rfl⟩ := exists_yieldsBoth hp hstep hstep'
      (fun b hb => hq b ((problems_prefix_of_run hrun).subset hb))
      (fun b hb => hq' b ((problems_prefix_of_run hrun').subset hb))
    by_cases hlater : (p.add e o).rows.length ≤ i
    · obtain ⟨d, body, ops, ops', hr, hr', hmatch⟩ := ih (hp.add hboth) hrun hrun' hlater
      exact ⟨d, body, ops, ops', hr.cons hstep, hr'.cons hstep', hmatch⟩
    · cases hboth with
      | rejected => exact absurd hpi hlater
      | @row body op op' ops ops' remarks hfound hexp hexp' hmatch =>
        -- both rows are those that the step adds
        have hlen : i = p.rows.length := by
          simp only [Progress.add, List.length_append, List.length_singleton] at hlater
          omega
        have hlen' : p.rows.length = p'.rows.length := hp.rows.length_eq
        subst hlen
        obtain ⟨htake, hget⟩ := take_getElem_of_prefix (rows_prefix_of_run hrun) hi
        have hnew' := rows_prefix_of_run hrun'
        simp only [Progress.add, hlen'] at hnew' hi' ⊢
        obtain ⟨htake', hget'⟩ := take_getElem_of_prefix hnew' hi'
        refine ⟨e, body, op :: ops, op' :: ops', ?_, ?_, hmatch⟩
        · simp only [hlen'] at htake hget
          rw [htake, hget, ← hlen']
          exact isRowOf_ofOperations ds hfound hexp
        · rw [htake', hget']
          rw [← hp.bodies] at hfound
          exact isRowOf_ofOperations ds hfound hexp'

end Progress

/-! ## Whole patterns -/

namespace Pattern

/-- Two patterns that are read from one text at two starting counts, neither with a round rejected
for the limit on stitches, have the same problems and advice and rows for the same drafts. The rows
of the one with the higher count have no fewer stitches, and not more over the other at the end
than at the start of a row; the operations of a row match and make the same net change. -/
theorem live_counts_monotone {text : String} {settings : Settings} {heuristics : Heuristics}
    {glossary : Option Glossary} {starting starting' : Option Int} {pat pat' : Pattern}
    (hle : starting.getD settings.starting ≤ starting'.getD settings.starting)
    (h : ofText text settings heuristics glossary starting = .ok pat)
    (h' : ofText text settings heuristics glossary starting' = .ok pat')
    (hlimit : ∀ b ∈ pat.problems, b.ofLimits = false)
    (hlimit' : ∀ b ∈ pat'.problems, b.ofLimits = false) :
    List.Forall₂ Row.Below pat.rows pat'.rows ∧ pat'.problems = pat.problems ∧
      pat'.advice = pat.advice ∧
      ∃ e, Extraction.ofText text = .ok e ∧
        ∀ i (hi : i < pat.rows.length) (hi' : i < pat'.rows.length), ∃ d body ops ops',
          Progress.IsRowOf (context settings heuristics glossary)
            (start (starting.getD settings.starting) e) (Draft.sort e.drafts)
            (pat.rows.take i) pat.rows[i] d body ops ∧
          Progress.IsRowOf (context settings heuristics glossary)
            (start (starting'.getD settings.starting) e) (Draft.sort e.drafts)
            (pat'.rows.take i) pat'.rows[i] d body ops' ∧
          List.Forall₂ Operation.Matches ops ops' ∧
          Operation.totalDelta ops' = Operation.totalDelta ops := by
  obtain ⟨e, last, he, hrun, rfl⟩ := ofText_eq_ok_iff.1 h
  obtain ⟨e', last', he', hrun', rfl⟩ := ofText_eq_ok_iff.1 h'
  cases he.symm.trans he'
  have hstart : (start (starting.getD settings.starting) e).Below
      (start (starting'.getD settings.starting) e) := by
    refine ⟨?_, rfl, .nil, rfl, rfl⟩
    show (max (1 : Int) _).toNat ≤ (max (1 : Int) _).toNat
    omega
  have hlast := hstart.run hrun hrun' hlimit hlimit'
  refine ⟨hlast.rows, hlast.problems, congrArg (firstsBy Advice.message) hlast.advice, e, he, ?_⟩
  intro i hi hi'
  obtain ⟨d, body, ops, ops', hr, hr', hmatch⟩ := Progress.exists_isRowOf_both hstart hrun hrun'
    hlimit hlimit' (Nat.zero_le i) hi hi'
  exact ⟨d, body, ops, ops', hr, hr', hmatch, Operation.totalDelta_eq_of_matches hmatch⟩

/-- From one stitch the count is cut off at zero in the second round, from three it is not; both
readings reject a reference, and the last round knits around nothing in one of them. -/
theorem live_counts_monotone_of_clamped :
    let text := "Rnd 1: k around, yo\nRnd 2: k3tog, k2tog\nRnd 3: see Rnd 9\n" ++
      "Rnd 4: k around, zz"
    ∃ pat pat', ofText text {} .bundled none (some 1) = .ok pat ∧
      ofText text {} .bundled none (some 3) = .ok pat' ∧
      pat.rows.map (fun r => (r.startCount, r.endCount)) = [(1, 2), (2, 0), (0, 0)] ∧
      pat'.rows.map (fun r => (r.startCount, r.endCount)) = [(3, 4), (4, 1), (1, 1)] ∧
      List.Forall₂ Row.Below pat.rows pat'.rows ∧ pat'.problems = pat.problems ∧
      pat'.advice = pat.advice := by
  intro text
  have hread : (ofText text {} .bundled none (some 1)).toOption.map (fun pat =>
      (pat.problems, pat.rows.map fun r => (r.startCount, r.endCount))) =
      some ([.round "Rnd 3" (.unresolved 9)], [(1, 2), (2, 0), (0, 0)]) := by
    decide +kernel
  have hread' : (ofText text {} .bundled none (some 3)).toOption.map (fun pat =>
      (pat.problems, pat.rows.map fun r => (r.startCount, r.endCount))) =
      some ([.round "Rnd 3" (.unresolved 9)], [(3, 4), (4, 1), (1, 1)]) := by
    decide +kernel
  obtain ⟨pat, h, hseen⟩ := exists_eq_ok_of_toOption hread
  obtain ⟨pat', h', hseen'⟩ := exists_eq_ok_of_toOption hread'
  obtain ⟨hproblems, hrows⟩ := Prod.mk.inj hseen
  obtain ⟨hproblems', hrows'⟩ := Prod.mk.inj hseen'
  have hboth := live_counts_monotone (by decide) h h' (by simp [hproblems, Problem.ofLimits,
    Rejection.ofLimits]) (by simp [hproblems', Problem.ofLimits, Rejection.ofLimits])
  exact ⟨pat, pat', h, h', hrows, hrows', hboth.1, hboth.2.1, hboth.2.2.1⟩

end Pattern

end KnitPattern
