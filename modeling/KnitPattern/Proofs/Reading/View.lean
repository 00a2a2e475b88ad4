/-
  Readings as they are seen. What a draft adds to the work looks alike where the draft, the bodies
  before it and the labels of the context look alike (`seen_outcome`), so two readings that look
  alike at the start look alike to the end, or halt at the same draft (`seen_run`).
-/
import KnitPattern.Proofs.Body.View
import KnitPattern.Proofs.Reading.Run
import KnitPattern.Proofs.Round.Order

namespace KnitPattern

variable (v : View)

/-! ## What is read, as it is seen -/

def Draft.seen (d : Draft) : Draft :=
  { d with body := v.text d.body, raw := v.text d.raw }

def Line.Fault.seen : Line.Fault → Line.Fault
  | stray => stray
  | noHeader => noHeader
  | noNumber header => noNumber (header.map v.char)

def Extraction.seen (e : Extraction) : Extraction :=
  ⟨e.drafts.map (Draft.seen v), e.faults.map (Prod.map id (Line.Fault.seen v))⟩

def Bodies.seen (bodies : Bodies) : Bodies :=
  bodies.map (Prod.map id v.text)

def Step.seen (s : Step) : Step :=
  { s with code := v.text s.code, label := v.label s.label }

def Row.seen (r : Row) : Row :=
  { r with raw := v.text r.raw, sequence := r.sequence.map (Step.seen v) }

def Problem.seen : Problem → Problem
  | line number fault => line number (fault.seen v)
  | round label why => round label why
  | noted text => noted (v.text text)

def Advice.seen : Advice → Advice
  | round label remark => round label (remark.seen v)
  | noted text => noted (v.text text)

def Outcome.seen : Outcome → Outcome
  | row r body remarks => row (r.seen v) (v.text body) (remarks.map (Body.Remark.seen v))
  | rejected why body => rejected why (body.map v.text)

def Progress.seen (p : Progress) : Progress where
  live := p.live
  bodies := Bodies.seen v p.bodies
  rows := p.rows.map (Row.seen v)
  problems := p.problems.map (Problem.seen v)
  advice := p.advice.map (Advice.seen v)

variable {v}

/-! ## Tables and rows -/

namespace Bodies

theorem seen_put (bodies : Bodies) (n : Int) (body : String) :
    seen v (bodies.put n body) = (seen v bodies).put n (v.text body) := by
  unfold seen
  induction bodies with
  | nil => rfl
  | cons entry bodies ih =>
    obtain ⟨k, other⟩ := entry
    simp only [Table.put, List.map_cons, Prod.map_apply, id_eq]
    split
    · rfl
    · rw [List.map_cons, ih, Prod.map_apply, id_eq]

theorem get?_seen (bodies : Bodies) (n : Int) :
    (seen v bodies).get? n = (bodies.get? n).map v.text := by
  unfold seen Table.get?
  induction bodies with
  | nil => rfl
  | cons entry bodies ih =>
    obtain ⟨k, body⟩ := entry
    simp only [List.map_cons, Prod.map_apply, id_eq, List.lookup_cons, ih]
    split <;> rfl

end Bodies

theorem Operation.totalDelta_seen (ops : List Operation) :
    totalDelta (ops.map (seen v)) = totalDelta ops := by
  rw [totalDelta, totalDelta, List.map_map]
  rfl

theorem Row.seen_ofOperations (d : Draft) (ops : List Operation) (start index : Int) :
    (ofOperations d ops start index).seen v =
      ofOperations (d.seen v) (ops.map (Operation.seen v)) start index := by
  simp only [ofOperations, seen, Draft.seen, Operation.totalDelta_seen, List.map_map]
  rfl

/-! ## Outcomes -/

section Outcomes

variable {ctx ctx' : Context} (hv : v.Respected) {d d' : Draft} {bodies bodies' : Bodies}
include hv

theorem Draft.seen_resolve (hd : d.seen v = d'.seen v)
    (hbodies : Bodies.seen v bodies = Bodies.seen v bodies') :
    (d.resolve bodies).map v.text = (d'.resolve bodies').map v.text := by
  have hbody : v.text d.body = v.text d'.body := congrArg Draft.body hd
  have href := hv.reference _ _ hbody
  cases href' : reference? d'.body with
  | none =>
    rw [resolve_of_plain bodies (href.trans href'), resolve_of_plain bodies' href']
    exact congrArg Except.ok hbody
  | some numeral =>
    by_cases hlen : numeral.length ≤ Halt.digitLimit
    · have hget : (bodies.get? (Numeral.value numeral : Int)).map v.text =
          (bodies'.get? (Numeral.value numeral : Int)).map v.text := by
        rw [← Bodies.get?_seen, hbodies, Bodies.get?_seen]
      rw [resolve_of_reference bodies (href.trans href') hlen,
        resolve_of_reference bodies' href' hlen]
      generalize bodies.get? (Numeral.value numeral : Int) = found at hget ⊢
      generalize bodies'.get? (Numeral.value numeral : Int) = found' at hget ⊢
      cases found with
      | none =>
        cases found' with
        | none => rfl
        | some body' => cases hget
      | some body =>
        cases found' with
        | none => cases hget
        | some body' => exact congrArg Except.ok (Option.some.inj hget)
    · rw [resolve_of_long bodies (href.trans href') hlen, resolve_of_long bodies' href' hlen]

variable (w : ctx.Alike v ctx') (live index : Int)
include w

theorem Context.seen_outcomeOfBody (hd : d.seen v = d'.seen v) {body body' : String}
    (hbody : v.text body = v.text body') :
    (ctx.outcomeOfBody live index d body).map (Outcome.seen v) =
      (ctx'.outcomeOfBody live index d' body').map (Outcome.seen v) := by
  unfold outcomeOfBody
  rcases cases_of_map_eq (seen_expand w hv hbody) with
    ⟨why, hread, hread'⟩ | ⟨e, e', hread, hread', he⟩
  · rw [hread, hread']
    cases why with
    | halted why => rfl
    | rejected why =>
      exact congrArg (fun text => Except.ok (Outcome.rejected why (some text))) hbody
  · obtain ⟨ops, remarks⟩ := e
    obtain ⟨ops', remarks'⟩ := e'
    obtain ⟨hops, hremarks⟩ := Expansion.mk.inj he
    rw [hread, hread']
    cases ops with
    | nil =>
      rw [List.map_nil, eq_comm, List.map_eq_nil_iff] at hops
      subst hops
      exact congrArg (fun text => Except.ok (Outcome.rejected .noInstructions (some text))) hbody
    | cons op ops =>
      cases ops' with
      | nil => cases hops
      | cons op' ops' =>
        show Except.ok (Outcome.row _ _ _) = Except.ok (Outcome.row _ _ _)
        rw [Row.seen_ofOperations, Row.seen_ofOperations, hd, hops, hbody, hremarks]

/-- Drafts that look alike have outcomes that look alike, or halt the reading alike. -/
theorem Context.seen_outcome (hd : d.seen v = d'.seen v)
    (hbodies : Bodies.seen v bodies = Bodies.seen v bodies') :
    (ctx.outcome live bodies index d).map (Outcome.seen v) =
      (ctx'.outcome live bodies' index d').map (Outcome.seen v) := by
  unfold outcome
  rcases cases_of_map_eq (Draft.seen_resolve hv hd hbodies) with
    ⟨why, hfound, hfound'⟩ | ⟨body, body', hfound, hfound', hbody⟩
  · rw [hfound, hfound']
    cases why <;> rfl
  · rw [hfound, hfound']
    exact seen_outcomeOfBody hv w live index hd hbody

end Outcomes

/-! ## Steps and runs -/

namespace Progress

theorem seen_add (p : Progress) (d : Draft) (o : Outcome) :
    (p.add d o).seen v = (p.seen v).add (d.seen v) (o.seen v) := by
  cases o with
  | row r body remarks =>
    simp only [add, seen, Outcome.seen, List.map_append, List.map_map, Bodies.seen_put,
      List.map_cons, List.map_nil]
    rfl
  | rejected why body =>
    cases body with
    | none =>
      simp only [add, seen, Outcome.seen, List.map_append, Option.map_none, List.map_cons,
        List.map_nil]
      rfl
    | some body =>
      simp only [add, seen, Outcome.seen, List.map_append, Option.map_some, Bodies.seen_put,
        List.map_cons, List.map_nil]
      rfl

variable {ctx ctx' : Context} (hv : v.Respected) (w : ctx.Alike v ctx')
include hv w

theorem seen_step {p p' : Progress} {d d' : Draft} (hp : p.seen v = p'.seen v)
    (hd : d.seen v = d'.seen v) :
    (p.step ctx d).map (seen v) = (p'.step ctx' d').map (seen v) := by
  have hlive : p.live = p'.live := by simpa only [seen] using congrArg live hp
  have hrows : p.rows.length = p'.rows.length := by
    simpa [seen] using congrArg (fun q : Progress => q.rows.length) hp
  have hbodies : Bodies.seen v p.bodies = Bodies.seen v p'.bodies := by
    simpa only [seen] using congrArg bodies hp
  refine bind_map_eq (f := Outcome.seen v) ?_ fun o o' ho => ?_
  · unfold outcome
    rw [hlive, hrows]
    exact Context.seen_outcome hv w _ _ hd hbodies
  · show Except.ok (seen v (p.add d o)) = Except.ok (seen v (p'.add d' o'))
    rw [seen_add, seen_add, hp, hd, ho]

/-- Runs that look alike at the start look alike at the end, or halt alike. -/
theorem seen_run {ds ds' : List Draft} (hds : ds.map (Draft.seen v) = ds'.map (Draft.seen v))
    {p p' : Progress} (hp : p.seen v = p'.seen v) :
    (p.run ctx ds).map (seen v) = (p'.run ctx' ds').map (seen v) := by
  induction ds generalizing ds' p p' with
  | nil =>
    rw [List.map_nil, eq_comm, List.map_eq_nil_iff] at hds
    subst hds
    exact congrArg Except.ok hp
  | cons d ds ih =>
    cases ds' with
    | nil => cases hds
    | cons d' ds' =>
      obtain ⟨hd, hds⟩ := List.cons.inj hds
      rw [run_cons, run_cons]
      exact bind_map_eq (seen_step hv w hp hd) fun q q' hq => ih hds hq

end Progress

/-! ## Extractions -/

namespace Pattern

theorem seen_start (starting : Int) (e : Extraction) :
    (start starting e).seen v = start starting (e.seen v) := by
  simp only [start, Progress.seen, Extraction.seen, List.map_map]
  rfl

/-- Extractions that look alike are read alike. -/
theorem seen_run_start {ctx ctx' : Context} (hv : v.Respected) (w : ctx.Alike v ctx')
    (starting : Int) {e e' : Extraction} (he : e.seen v = e'.seen v) :
    ((start starting e).run ctx (Draft.sort e.drafts)).map (Progress.seen v) =
      ((start starting e').run ctx' (Draft.sort e'.drafts)).map (Progress.seen v) := by
  have hnumber : ∀ d : Draft, (d.seen v).number = d.number := fun _ => rfl
  have hdrafts : e.drafts.map (Draft.seen v) = e'.drafts.map (Draft.seen v) := by
    simpa only [Extraction.seen] using congrArg Extraction.drafts he
  refine Progress.seen_run hv w ?_ ?_
  · rw [← Draft.sort_map hnumber, ← Draft.sort_map hnumber, hdrafts]
  · rw [seen_start, seen_start, he]

end Pattern

end KnitPattern
