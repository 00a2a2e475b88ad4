/-
  Runs of a reading. `Yields` says everything that a draft can add to the work, one case for
  each outcome, and `outcome_eq_ok_iff` that nothing else is added; the later files on
  readings argue from it and never open `outcome`. Below it, runs over a list of drafts that
  is put together from others, what no step of a run takes back, and the problems that were
  known before a run, which do not count in it (`run_after`).
-/
import KnitPattern.Pattern
import KnitPattern.Proofs.Halting

namespace KnitPattern

/-! ## The body of a draft -/

namespace Draft

theorem resolve_of_plain {d : Draft} (bodies : Bodies) (h : reference? d.body = none) :
    d.resolve bodies = .ok d.body := by
  unfold resolve
  rw [h]

theorem resolve_of_reference {d : Draft} {numeral : List Char} (bodies : Bodies)
    (h : reference? d.body = some numeral) (hlen : numeral.length ≤ Halt.digitLimit) :
    d.resolve bodies = match bodies.get? (Numeral.value numeral : Int) with
      | some body => .ok body
      | none => .error (.rejected (.unresolved (Numeral.value numeral))) := by
  have hread : Numeral.read numeral = .ok (Numeral.value numeral) := by
    rw [Numeral.read, if_pos hlen]
  unfold resolve
  rw [h]
  dsimp only
  rw [hread]
  show (match bodies.get? (Numeral.value numeral : Int) with
    | some body => (.ok body : Except Stop String)
    | none => _) = _
  cases bodies.get? (Numeral.value numeral : Int) <;> rfl

theorem resolve_of_long {d : Draft} {numeral : List Char} (bodies : Bodies)
    (h : reference? d.body = some numeral) (hlen : ¬ numeral.length ≤ Halt.digitLimit) :
    d.resolve bodies = .error (.halted (.numeralTooLong numeral.length)) := by
  have hread : Numeral.read numeral = .error (.numeralTooLong numeral.length) := by
    rw [Numeral.read, if_neg hlen]
  unfold resolve
  rw [h]
  dsimp only
  rw [hread]
  rfl

/-- A body is found as it stands, or among the bodies of the rounds read before. -/
theorem plain_or_get?_of_resolve {d : Draft} {bodies : Bodies} {body : String}
    (h : d.resolve bodies = .ok body) :
    (reference? d.body = none ∧ d.body = body) ∨ ∃ n, bodies.get? n = some body := by
  cases href : reference? d.body with
  | none =>
    rw [resolve_of_plain bodies href] at h
    exact .inl ⟨rfl, Except.ok.inj h⟩
  | some numeral =>
    by_cases hlen : numeral.length ≤ Halt.digitLimit
    · rw [resolve_of_reference bodies href hlen] at h
      cases hget : bodies.get? (Numeral.value numeral : Int) with
      | none =>
        rw [hget] at h
        cases h
      | some found =>
        rw [hget] at h
        cases h
        exact .inr ⟨_, hget⟩
    · rw [resolve_of_long bodies href hlen] at h
      cases h

end Draft

/-! ## What a draft yields -/

/-- What a draft adds to the work, given the live stitches, the bodies read before it and the
number of rows: one case for each outcome. -/
inductive Context.Yields (ctx : Context) (live : Int) (bodies : Bodies) (index : Int)
    (d : Draft) : Outcome → Prop
  | unresolved {why : Rejection} (found : d.resolve bodies = .error (.rejected why)) :
      Yields ctx live bodies index d (.rejected why none)
  | overLimit {body : String} {why : Rejection} (found : d.resolve bodies = .ok body)
      (refused : ctx.expand live body = .error (.rejected why)) :
      Yields ctx live bodies index d (.rejected why (some body))
  | empty {body : String} {remarks : List Body.Remark} (found : d.resolve bodies = .ok body)
      (expanded : ctx.expand live body = .ok ⟨[], remarks⟩) :
      Yields ctx live bodies index d (.rejected .noInstructions (some body))
  | row {body : String} {op : Operation} {ops : List Operation} {remarks : List Body.Remark}
      (found : d.resolve bodies = .ok body)
      (expanded : ctx.expand live body = .ok ⟨op :: ops, remarks⟩) :
      Yields ctx live bodies index d
        (.row (.ofOperations d (op :: ops) live index) body remarks)

theorem Context.outcome_eq_ok_iff {ctx : Context} {live : Int} {bodies : Bodies} {index : Int}
    {d : Draft} {o : Outcome} :
    ctx.outcome live bodies index d = .ok o ↔ ctx.Yields live bodies index d o := by
  constructor
  · intro h
    unfold outcome at h
    split at h
    · cases h
    · next hfound => cases h; exact .unresolved hfound
    · next body hfound =>
      unfold outcomeOfBody at h
      split at h
      · cases h
      · next hexp => cases h; exact .overLimit hfound hexp
      · next hexp => cases h; exact .empty hfound hexp
      · next hexp => cases h; exact .row hfound hexp
  · intro h
    cases h with
    | unresolved hfound => rw [outcome, hfound]
    | overLimit hfound hexp => rw [outcome, hfound]; dsimp only; rw [outcomeOfBody, hexp]
    | empty hfound hexp => rw [outcome, hfound]; dsimp only; rw [outcomeOfBody, hexp]
    | row hfound hexp => rw [outcome, hfound]; dsimp only; rw [outcomeOfBody, hexp]

/-- Nothing but a numeral of a reference and the text of a body halts the work on a draft. -/
theorem Context.outcome_eq_error_iff {ctx : Context} {live : Int} {bodies : Bodies}
    {index : Int} {d : Draft} {why : Halt} :
    ctx.outcome live bodies index d = .error why ↔ d.resolve bodies = .error (.halted why) ∨
      ∃ body, d.resolve bodies = .ok body ∧ ctx.expand live body = .error (.halted why) := by
  constructor
  · intro h
    unfold outcome at h
    split at h
    · next hfound => cases h; exact .inl hfound
    · cases h
    · next body hfound =>
      unfold outcomeOfBody at h
      split at h
      · next hexp => cases h; exact .inr ⟨body, hfound, hexp⟩
      · cases h
      · cases h
      · cases h
  · rintro (hfound | ⟨body, hfound, hexp⟩)
    · rw [outcome, hfound]
    · rw [outcome, hfound]; dsimp only; rw [outcomeOfBody, hexp]

/-! ## Steps and runs -/

namespace Progress

variable {ctx : Context} {p q : Progress} {d : Draft} {ds es : List Draft}

theorem step_eq_ok_iff :
    p.step ctx d = .ok q ↔
      ∃ o, ctx.Yields p.live p.bodies p.rows.length d o ∧ q = p.add d o := by
  unfold step
  rw [bind_eq_ok_iff]
  constructor
  · rintro ⟨o, ho, h⟩
    cases h
    exact ⟨o, Context.outcome_eq_ok_iff.1 ho, rfl⟩
  · rintro ⟨o, ho, rfl⟩
    exact ⟨o, Context.outcome_eq_ok_iff.2 ho, rfl⟩

theorem step_eq_error_iff {why : Halt} :
    p.step ctx d = .error why ↔ d.resolve p.bodies = .error (.halted why) ∨
      ∃ body, d.resolve p.bodies = .ok body ∧ ctx.expand p.live body = .error (.halted why) := by
  unfold step
  rw [bind_eq_error_iff]
  constructor
  · rintro (h | ⟨_, -, h⟩)
    · exact Context.outcome_eq_error_iff.1 h
    · cases h
  · intro h
    exact .inl (Context.outcome_eq_error_iff.2 h)

/-- What holds of the kept bodies, and of the body that a draft is found to have, holds of the
bodies kept after it. -/
theorem get?_of_step {P : String → Prop} (hp : ∀ n body, p.bodies.get? n = some body → P body)
    (hd : ∀ body, d.resolve p.bodies = .ok body → P body) (h : p.step ctx d = .ok q) :
    ∀ n body, q.bodies.get? n = some body → P body := by
  have hput : ∀ found, d.resolve p.bodies = .ok found →
      ∀ n body, (p.bodies.put d.number found).get? n = some body → P body := by
    intro found hfound n body hget
    rw [Table.get?_put] at hget
    split at hget
    · cases hget
      exact hd found hfound
    · exact hp n body hget
  obtain ⟨o, ho, rfl⟩ := step_eq_ok_iff.1 h
  cases ho with
  | unresolved => exact hp
  | overLimit hfound => exact hput _ hfound
  | empty hfound => exact hput _ hfound
  | row hfound => exact hput _ hfound

theorem run_nil : p.run ctx [] = .ok p := rfl

theorem run_cons : p.run ctx (d :: ds) = p.step ctx d >>= fun q => q.run ctx ds := by
  unfold run
  rw [List.foldlM_cons]

theorem run_cons_eq_ok_iff :
    p.run ctx (d :: ds) = .ok q ↔ ∃ m, p.step ctx d = .ok m ∧ m.run ctx ds = .ok q := by
  rw [run_cons, bind_eq_ok_iff]

theorem run_append : p.run ctx (ds ++ es) = p.run ctx ds >>= fun q => q.run ctx es := by
  unfold run
  rw [List.foldlM_append]

theorem run_append_eq_ok_iff :
    p.run ctx (ds ++ es) = .ok q ↔ ∃ m, p.run ctx ds = .ok m ∧ m.run ctx es = .ok q := by
  rw [run_append, bind_eq_ok_iff]

/-- What every step keeps, a run keeps. -/
theorem run_induction {P : Progress → Prop}
    (hstep : ∀ p d q, P p → p.step ctx d = .ok q → P q) (hp : P p)
    (h : p.run ctx ds = .ok q) : P q := by
  induction ds generalizing p with
  | nil => cases h; exact hp
  | cons d ds ih =>
    obtain ⟨m, hm, hrun⟩ := run_cons_eq_ok_iff.1 h
    exact ih (hstep p d m hp hm) hrun

/-- Runs that agree step by step agree to the end. -/
theorem run_map {f : Progress → Progress} {g : Draft → Draft}
    (hstep : ∀ p d, (f p).step ctx (g d) = (p.step ctx d).map f) (p : Progress)
    (ds : List Draft) : (f p).run ctx (ds.map g) = (p.run ctx ds).map f := by
  induction ds generalizing p with
  | nil => rfl
  | cons d ds ih =>
    rw [List.map_cons, run_cons, run_cons, hstep]
    cases p.step ctx d with
    | error why => rfl
    | ok q => exact ih q

/-! ## Nothing is taken back -/

theorem rows_prefix_of_step (h : p.step ctx d = .ok q) : p.rows <+: q.rows := by
  obtain ⟨o, -, rfl⟩ := step_eq_ok_iff.1 h
  cases o with
  | row row body remarks => exact List.prefix_append _ _
  | rejected why body => exact List.prefix_rfl

theorem rows_prefix_of_run (h : p.run ctx ds = .ok q) : p.rows <+: q.rows := by
  refine run_induction (P := fun m => p.rows <+: m.rows) ?_ List.prefix_rfl h
  intro m d n hm hstep
  exact hm.trans (rows_prefix_of_step hstep)

theorem problems_prefix_of_step (h : p.step ctx d = .ok q) : p.problems <+: q.problems := by
  obtain ⟨o, -, rfl⟩ := step_eq_ok_iff.1 h
  cases o with
  | row row body remarks => exact List.prefix_rfl
  | rejected why body => exact List.prefix_append _ _

theorem problems_prefix_of_run (h : p.run ctx ds = .ok q) : p.problems <+: q.problems := by
  refine run_induction (P := fun m => p.problems <+: m.problems) ?_ List.prefix_rfl h
  intro m d n hm hstep
  exact hm.trans (problems_prefix_of_step hstep)

theorem advice_prefix_of_step (h : p.step ctx d = .ok q) : p.advice <+: q.advice := by
  obtain ⟨o, -, rfl⟩ := step_eq_ok_iff.1 h
  cases o with
  | row row body remarks => exact List.prefix_append _ _
  | rejected why body => exact List.prefix_rfl

theorem advice_prefix_of_run (h : p.run ctx ds = .ok q) : p.advice <+: q.advice := by
  refine run_induction (P := fun m => p.advice <+: m.advice) ?_ List.prefix_rfl h
  intro m d n hm hstep
  exact hm.trans (advice_prefix_of_step hstep)

/-! ## The problems known before -/

/-- The progress of a reading before which some problems were known. -/
def after (known : List Problem) (p : Progress) : Progress :=
  { p with problems := known ++ p.problems }

theorem step_after (known : List Problem) (p : Progress) (d : Draft) :
    (p.after known).step ctx d = (p.step ctx d).map (after known) := by
  show (do return (p.after known).add d (← p.outcome ctx d)) = _
  rw [step]
  cases p.outcome ctx d with
  | error why => rfl
  | ok o =>
    cases o with
    | row row body remarks => rfl
    | rejected why body =>
      show Except.ok ((p.after known).add d (.rejected why body)) =
        Except.ok ((p.add d (.rejected why body)).after known)
      simp [add, after]

theorem run_after (known : List Problem) (p : Progress) (ds : List Draft) :
    (p.after known).run ctx ds = (p.run ctx ds).map (after known) := by
  have h : (p.after known).run ctx (ds.map id) = (p.run ctx ds).map (after known) :=
    run_map (step_after known) p ds
  rwa [List.map_id] at h

end Progress

/-! ## Whole patterns -/

section

variable {α β : Type} [DecidableEq β] {f : α → β} {as : List α}

theorem firstsBy_sublist : (firstsBy f as).Sublist as := by
  induction as with
  | nil => exact List.Sublist.refl _
  | cons a as ih => exact (List.filter_sublist.trans ih).cons_cons a

/-- Of elements that are alike one is left. -/
theorem mem_map_firstsBy {b : β} :
    b ∈ (firstsBy f as).map f ↔ b ∈ as.map f := by
  induction as with
  | nil => exact Iff.rfl
  | cons a as ih =>
    rw [firstsBy, List.map_cons, List.map_cons, List.mem_cons, List.mem_cons, ← ih]
    simp only [List.mem_map, List.mem_filter, decide_eq_true_eq]
    constructor
    · rintro (rfl | ⟨c, ⟨hc, -⟩, rfl⟩)
      · exact .inl rfl
      · exact .inr ⟨c, hc, rfl⟩
    · rintro (rfl | ⟨c, hc, rfl⟩)
      · exact .inl rfl
      · by_cases h : f c = f a
        · exact .inl h
        · exact .inr ⟨c, ⟨hc, h⟩, rfl⟩

/-- Of elements put after others those are left that are like none of these. -/
theorem firstsBy_append (as bs : List α) :
    firstsBy f (as ++ bs) = firstsBy f as ++ (firstsBy f bs).filter (f · ∉ as.map f) := by
  induction as with
  | nil =>
    rw [firstsBy, List.map_nil, List.nil_append, List.nil_append, List.filter_eq_self.2]
    exact fun b _ => decide_eq_true List.not_mem_nil
  | cons a as ih =>
    rw [List.cons_append, firstsBy, firstsBy, ih, List.filter_append, List.filter_filter,
      List.cons_append]
    refine congrArg (fun rest => a :: (_ ++ rest)) (List.filter_congr fun b _ => ?_)
    rw [List.map_cons, ← Bool.decide_and, decide_eq_decide, List.mem_cons, not_or]

theorem firstsBy_append_congr {as as' bs bs' : List α} (ha : firstsBy f as = firstsBy f as')
    (hb : firstsBy f bs = firstsBy f bs') : firstsBy f (as ++ bs) = firstsBy f (as' ++ bs') := by
  rw [firstsBy_append, firstsBy_append, ha, hb]
  refine congrArg (firstsBy f as' ++ ·) (List.filter_congr fun b _ => ?_)
  rw [decide_eq_decide, ← mem_map_firstsBy, ha, mem_map_firstsBy]

/-- Of copies of a list the first one is left. -/
theorem firstsBy_flatten_replicate {n : Nat} (hn : 0 < n) (as : List α) :
    firstsBy f (List.replicate n as).flatten = firstsBy f as := by
  induction n with
  | zero => omega
  | succ n ih =>
    have hrest : ∀ b ∈ firstsBy f (List.replicate n as).flatten, f b ∈ as.map f := by
      intro b hb
      obtain ⟨copy, hcopy, hb⟩ := List.mem_flatten.1 (firstsBy_sublist.subset hb)
      rw [(List.mem_replicate.1 hcopy).2] at hb
      exact List.mem_map_of_mem hb
    rw [List.replicate_succ, List.flatten_cons, firstsBy_append, List.filter_eq_nil_iff.2,
      List.append_nil]
    intro b hb
    simpa using hrest b hb

/-- The elements that are left stand in the order in which the first of each kind came. -/
theorem pairwise_idxOf_firstsBy :
    (firstsBy f as).Pairwise fun a b => (as.map f).idxOf (f a) < (as.map f).idxOf (f b) := by
  induction as with
  | nil => exact .nil
  | cons a as ih =>
    have hother : ∀ b ∈ (firstsBy f as).filter (f · ≠ f a), f a ≠ f b := by
      intro b hb
      exact fun heq => of_decide_eq_true (List.mem_filter.1 hb).2 heq.symm
    rw [firstsBy, List.map_cons]
    refine List.pairwise_cons.2 ⟨fun b hb => ?_, ?_⟩
    · rw [List.idxOf_cons_self, List.idxOf_cons_ne _ (hother b hb)]
      exact Nat.succ_pos _
    · refine (ih.filter _).imp_of_mem fun hb hc hlt => ?_
      rw [List.idxOf_cons_ne _ (hother _ hb), List.idxOf_cons_ne _ (hother _ hc)]
      exact Nat.succ_lt_succ hlt

/-- No two of the elements that are left are of one kind. -/
theorem nodup_map_firstsBy : ((firstsBy f as).map f).Nodup := by
  refine List.pairwise_map.2 (pairwise_idxOf_firstsBy.imp fun hlt heq => ?_)
  rw [heq] at hlt
  exact Nat.lt_irrefl _ hlt

end

namespace Extraction

/-- The faults of lines as problems of a pattern. -/
def problems (e : Extraction) : List Problem :=
  e.faults.map fun (line, fault) => .line line fault

end Extraction

namespace Pattern

/-- The settings of a reading as the context that its rounds share. -/
def context (settings : Settings) (heuristics : Heuristics) (glossary : Option Glossary) :
    Context :=
  { glossary := glossary.getD settings.glossary, heuristics, limits := settings.limits }

theorem ofText_eq_ok_iff {text : String} {settings : Settings} {heuristics : Heuristics}
    {glossary : Option Glossary} {starting : Option Int} {pat : Pattern} :
    ofText text settings heuristics glossary starting = .ok pat ↔
      ∃ e last, Extraction.ofText text = .ok e ∧
        (start (starting.getD settings.starting) e).run (context settings heuristics glossary)
          (Draft.sort e.drafts) = .ok last ∧ pat = ofProgress last := by
  unfold ofText
  rw [bind_eq_ok_iff]
  constructor
  · rintro ⟨e, he, h⟩
    obtain ⟨last, hlast, h⟩ := bind_eq_ok_iff.1 h
    cases h
    exact ⟨e, last, he, hlast, rfl⟩
  · rintro ⟨e, last, he, hlast, rfl⟩
    exact ⟨e, he, bind_eq_ok_iff.2 ⟨last, hlast, rfl⟩⟩

/-! ### The faults of lines -/

/-- A pattern with problems that were known before it was read. -/
def after (known : List Problem) (p : Pattern) : Pattern :=
  { p with problems := known ++ p.problems }

theorem start_eq_after (starting : Int) (e : Extraction) (ds : List Draft) :
    start starting e = (start starting ⟨ds, []⟩).after e.problems := by
  simp [start, Progress.after, Extraction.problems]

/-- The faults of lines come before all other problems and have no effect on them. -/
theorem ofExtraction_eq_after (ctx : Context) (starting : Int) (e : Extraction) :
    ofExtraction ctx starting e =
      (ofExtraction ctx starting ⟨e.drafts, []⟩).map (after e.problems) := by
  unfold ofExtraction
  rw [start_eq_after starting e e.drafts, Progress.run_after]
  cases (start starting ⟨e.drafts, []⟩).run ctx (Draft.sort e.drafts) with
  | error why => rfl
  | ok last => rfl

end Pattern

end KnitPattern
