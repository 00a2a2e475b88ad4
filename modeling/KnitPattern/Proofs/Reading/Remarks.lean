/-
  The remarks on a pattern. A row is advised about what its block is clamped to and about each of
  its operations that is a guess, and a pattern about all of its rows (`Advised`), each remark once
  and in the order in which it first came. A block is remarked about as one copy of it is, which
  leaves the same remarks (`firstsBy_of_expand`). Since a row is of one draft only
  (`IsRowOf.unique`), the advice of a pattern is what its rows are advised about and nothing else
  (`advice_of_rows`); an operation without a remark has the counts in which it is written.
-/
import KnitPattern.Proofs.Body.StitchLimit
import KnitPattern.Proofs.Reading.Continuity
import KnitPattern.Proofs.Reading.Halts

namespace KnitPattern

open Text Body

/-! ## One body -/

namespace Operation

theorem remarks_append (ops ops' : List Operation) :
    remarks (ops ++ ops') = remarks ops ++ remarks ops' := by
  unfold remarks
  rw [List.filterMap_append, List.map_append]

theorem remarks_copies (n : Nat) (ops : List Operation) :
    remarks (copies n ops) = (List.replicate n (remarks ops)).flatten := by
  rw [copies_eq]
  induction n with
  | zero => rfl
  | succ n ih =>
    rw [List.replicate_succ, List.replicate_succ, List.flatten_cons, List.flatten_cons,
      remarks_append, ih]

end Operation

namespace Context

variable {ctx : Context} {live : Int}

/-- What there is to remark about a body and all of its operations. -/
def remarksOn (ctx : Context) (body : String) (ops : List Operation) : List Remark :=
  ctx.blockRemarks body ++ Operation.remarks ops

/-- Every expansion is a number of copies, and the remarks are those on the first one. -/
theorem exists_copy_of_expand {body : String} {e : Expansion} (h : ctx.expand live body = .ok e) :
    ∃ n ops, e.operations = copies n ops ∧
      e.remarks = ctx.blockRemarks body ++ Operation.remarks ops := by
  unfold blockRemarks
  rw [expand_eq] at h
  cases hform : form (trim body.toList) with
  | around =>
    rw [hform] at h
    obtain ⟨op, hop, h⟩ := bind_eq_ok_iff.1 h
    obtain ⟨-, rfl⟩ := around_eq_ok_iff.1 hop
    cases h
    exact ⟨1, _, (copies_one _).symm, rfl⟩
  | block inner times =>
    rw [hform] at h
    obtain ⟨-, -, ops, -, -, -, -, rfl⟩ := expandBlock_eq_ok_iff.1 h
    exact ⟨_, ops, rfl, rfl⟩
  | plain text =>
    rw [hform] at h
    obtain ⟨ops, -, -, rfl⟩ := expandPlain_eq_ok_iff.1 h
    exact ⟨1, ops, (copies_one ops).symm, rfl⟩

/-- The remarks on an expansion leave the same advice as those on all of its operations. -/
theorem firstsBy_of_expand {body : String} {op : Operation} {ops : List Operation}
    {remarks : List Remark} (h : ctx.expand live body = .ok ⟨op :: ops, remarks⟩)
    (label : String) :
    firstsBy Advice.message (remarks.map (.round label)) =
      firstsBy Advice.message ((ctx.remarksOn body (op :: ops)).map (.round label)) := by
  obtain ⟨n, one, hops, rfl⟩ := exists_copy_of_expand h
  change op :: ops = copies n one at hops
  have hn : 0 < n := by
    rcases Nat.eq_zero_or_pos n with rfl | hpos
    · rw [copies_eq] at hops
      cases hops
    · exact hpos
  rw [remarksOn, hops, Operation.remarks_copies, List.map_append, List.map_append,
    List.map_flatten, List.map_replicate]
  exact firstsBy_append_congr rfl (firstsBy_flatten_replicate hn _).symm

/-- The operation knits every live stitch, or it is written in a shape and has its counts. -/
def CountsAsWritten (ctx : Context) (live : Int) (op : Operation) : Prop :=
  op = ctx.aroundOperation live ∨ ∃ (a : Shape) (c : Stitch.Counts),
    a.Writes op.code.toList c ∧ (op.consume, op.produce, op.units) = (c.consume, c.produce, c.units)

theorem countsAsWritten_of_operation {token : List Char} {op : Operation}
    (h : ctx.operation live token = .ok op) (hnone : op.remark = none) :
    ctx.CountsAsWritten live op := by
  unfold operation at h
  split at h
  · obtain ⟨-, rfl⟩ := around_eq_ok_iff.1 h
    exact .inl rfl
  · replace h := eq_ok_of_liftM h
    by_cases hwritten : ∃ (a : Shape) (c : Stitch.Counts),
        a.Writes (String.ofList token).toList c
    · obtain ⟨a, c, hc⟩ := hwritten
      obtain rfl := classify_of_writes hc h
      refine .inr ⟨a, c, ?_, (counts_limited c).1 hnone⟩
      rwa [(limited_named ctx _ c).1]
    · rw [classify_of_not_writes ctx fun a c hc => hwritten ⟨a, c, hc⟩] at h
      cases h
      cases hnone

end Context

/-! ## One row -/

namespace Progress

variable {ctx : Context} {p q : Progress} {d : Draft} {ds : List Draft}

/-- A run that goes past a draft with operations has a row more. -/
theorem length_lt_of_run {before after : List Draft} {m m' : Progress} {body : String}
    {op : Operation} {ops : List Operation} {remarks : List Remark}
    (hm : p.run ctx before = .ok m) (hm' : p.run ctx (before ++ d :: after) = .ok m')
    (hfound : d.resolve m.bodies = .ok body)
    (hexp : ctx.expand m.live body = .ok ⟨op :: ops, remarks⟩) :
    m.rows.length < m'.rows.length := by
  obtain ⟨_, hk, hrest⟩ := run_append_eq_ok_iff.1 hm'
  cases hm.symm.trans hk
  obtain ⟨k, hstep, hrest⟩ := run_cons_eq_ok_iff.1 hrest
  have hadd := step_eq_ok_iff.2 ⟨_, .row hfound hexp, rfl⟩
  cases hadd.symm.trans hstep
  have hlen := (rows_prefix_of_run hrest).length_le
  have hrow : (m.rows ++ [_]).length ≤ m'.rows.length := hlen
  rw [List.length_append, List.length_singleton] at hrow
  omega

/-- A run that has the rows before a draft with operations has not gone past that draft. -/
theorem length_le_of_rows_eq {before after before' after' : List Draft} {d' : Draft}
    {m m' : Progress} {body : String} {op : Operation} {ops : List Operation}
    {remarks : List Body.Remark} (hds : before ++ d :: after = before' ++ d' :: after')
    (hm : p.run ctx before = .ok m) (hm' : p.run ctx before' = .ok m') (hrows : m'.rows = m.rows)
    (hfound : d.resolve m.bodies = .ok body)
    (hexp : ctx.expand m.live body = .ok ⟨op :: ops, remarks⟩) :
    before'.length ≤ before.length := by
  by_contra hgt
  obtain ⟨past, hpast⟩ : ∃ past, before' = before ++ d :: past := by
    rcases List.append_eq_append_iff.1 hds with ⟨x, rfl, hx⟩ | ⟨x, rfl, -⟩
    · cases x with
      | nil => simp at hgt
      | cons e x =>
        obtain ⟨rfl, -⟩ := List.cons.inj hx
        exact ⟨x, rfl⟩
    · simp at hgt
  rw [hpast] at hm'
  have hlt := length_lt_of_run hm hm' hfound hexp
  rw [hrows] at hlt
  exact absurd hlt (Nat.lt_irrefl _)

/-- A row with steps is of one draft, with one body and one list of operations. -/
theorem IsRowOf.unique {earlier : List Row} {r : Row} {d' : Draft} {body body' : String}
    {ops ops' : List Operation} (hsteps : r.sequence ≠ [])
    (h : IsRowOf ctx p ds earlier r d body ops) (h' : IsRowOf ctx p ds earlier r d' body' ops') :
    d = d' ∧ body = body' ∧ ops = ops' := by
  have hsome : ∀ {ops : List Operation}, r.LaysOut ops → ∃ op rest, ops = op :: rest := by
    intro ops hlaid
    refine List.exists_cons_of_ne_nil fun hnil => hsteps ?_
    rw [hlaid.sequence, hnil, List.map_nil]
  obtain ⟨op, rest, rfl⟩ := hsome h.laysOut
  obtain ⟨op', rest', rfl⟩ := hsome h'.laysOut
  obtain ⟨before, after, m, hds, hm, hrows, hlive, hfound⟩ := h.reached
  obtain ⟨before', after', m', hds', hm', hrows', hlive', hfound'⟩ := h'.reached
  obtain ⟨remarks, hexp⟩ := h.expanded
  obtain ⟨remarks', hexp'⟩ := h'.expanded
  rw [← hlive] at hexp
  rw [← hlive'] at hexp'
  have hsplit := hds.symm.trans hds'
  have hle := length_le_of_rows_eq hsplit hm hm' (hrows'.trans hrows.symm) hfound hexp
  have hge := length_le_of_rows_eq hsplit.symm hm' hm (hrows.trans hrows'.symm) hfound' hexp'
  obtain ⟨rfl, hrest⟩ := List.append_inj hsplit (Nat.le_antisymm hge hle)
  cases hm.symm.trans hm'
  obtain ⟨rfl, -⟩ := List.cons.inj hrest
  cases hfound.symm.trans hfound'
  cases hexp.symm.trans hexp'
  exact ⟨rfl, rfl, rfl⟩

/-! ## All rows -/

/-- What there is to advise about rows of a run, row by row. -/
inductive Advised (ctx : Context) (p : Progress) (ds : List Draft) :
    (earlier rows : List Row) → List Advice → Prop
  | nil {earlier : List Row} : Advised ctx p ds earlier [] []
  | row {earlier : List Row} {r : Row} {rows : List Row} {d : Draft} {body : String}
      {ops : List Operation} {advice : List Advice} (of : IsRowOf ctx p ds earlier r d body ops)
      (rest : Advised ctx p ds (earlier ++ [r]) rows advice) :
      Advised ctx p ds earlier (r :: rows) ((ctx.remarksOn body ops).map (.round r.label) ++ advice)

namespace Advised

variable {earlier rows : List Row} {advice : List Advice}

theorem cons {m : Progress} {e : Draft} (hstep : p.step ctx e = .ok m)
    (h : Advised ctx m ds earlier rows advice) : Advised ctx p (e :: ds) earlier rows advice := by
  induction h with
  | nil => exact .nil
  | row of _ ih => exact .row (of.cons hstep) ih

theorem exists_row_of_mem (h : Advised ctx p ds earlier rows advice) {a : Advice}
    (ha : a ∈ advice) :
    ∃ before r after d body ops, rows = before ++ r :: after ∧
      IsRowOf ctx p ds (earlier ++ before) r d body ops ∧
      ∃ u ∈ ctx.remarksOn body ops, a = .round r.label u := by
  induction h with
  | nil => cases ha
  | @row earlier r rows d body ops advice of _ ih =>
    rcases List.mem_append.1 ha with ha | ha
    · obtain ⟨u, hu, rfl⟩ := List.mem_map.1 ha
      refine ⟨[], r, rows, d, body, ops, rfl, ?_, u, hu, rfl⟩
      rwa [List.append_nil]
    · obtain ⟨before, r', after, d, body, ops, rfl, hrow, hadvice⟩ := ih ha
      refine ⟨r :: before, r', after, d, body, ops, rfl, ?_, hadvice⟩
      rwa [List.append_assoc] at hrow

theorem mem_of_row (h : Advised ctx p ds earlier rows advice) {before after : List Row} {r : Row}
    {body : String} {ops : List Operation} (hrows : rows = before ++ r :: after)
    (hsteps : r.sequence ≠ []) (hrow : IsRowOf ctx p ds (earlier ++ before) r d body ops)
    {u : Body.Remark} (hu : u ∈ ctx.remarksOn body ops) : .round r.label u ∈ advice := by
  induction h generalizing before with
  | nil => simp at hrows
  | row of _ ih =>
    cases before with
    | nil =>
      obtain ⟨rfl, -⟩ := List.cons.inj hrows
      rw [List.append_nil] at hrow
      obtain ⟨rfl, rfl, rfl⟩ := of.unique hsteps hrow
      exact List.mem_append_left _ (List.mem_map_of_mem hu)
    | cons s before =>
      obtain ⟨rfl, hrest⟩ := List.cons.inj hrows
      rw [← List.singleton_append, ← List.append_assoc] at hrow
      exact List.mem_append_right _ (ih hrest hrow)

end Advised

/-- The messages that come up are those of a row on its block or on one of its operations. -/
theorem Advised.mem_map_message {rows : List Row} {advice : List Advice} {w : String}
    (h : Advised ctx p ds [] rows advice) (hsteps : ∀ r ∈ rows, r.sequence ≠ []) :
    w ∈ advice.map Advice.message ↔ ∃ earlier r later d body ops,
      rows = earlier ++ r :: later ∧ IsRowOf ctx p ds earlier r d body ops ∧
        ∃ u ∈ ctx.remarksOn body ops, w = s!"{r.label}: {u.message}" := by
  constructor
  · intro hw
    obtain ⟨a, ha, rfl⟩ := List.mem_map.1 hw
    obtain ⟨before, r, after, d, body, ops, hsplit, hrow, u, hu, rfl⟩ := h.exists_row_of_mem ha
    exact ⟨before, r, after, d, body, ops, hsplit, hrow, u, hu, rfl⟩
  · rintro ⟨earlier, r, later, d, body, ops, hsplit, hrow, u, hu, rfl⟩
    have hr : r ∈ rows := by
      rw [hsplit]
      exact List.mem_append_right _ List.mem_cons_self
    exact List.mem_map_of_mem (h.mem_of_row hsplit (hsteps r hr) hrow hu)

/-- An operation of a row is remarked about, or it has the counts in which it is written. -/
theorem IsRowOf.remarked_or_counted {earlier : List Row} {r : Row} {body : String}
    {ops : List Operation} (h : IsRowOf ctx p ds earlier r d body ops) {op : Operation}
    (hop : op ∈ ops) :
    (∃ u, op.remark = some u ∧ .operation u ∈ ctx.remarksOn body ops) ∨
      (op.remark = none ∧ ctx.CountsAsWritten r.startCount op) := by
  cases hremark : op.remark with
  | some u =>
    have hu : Body.Remark.operation u ∈ Operation.remarks ops :=
      List.mem_map_of_mem (List.mem_filterMap.2 ⟨op, hop, hremark⟩)
    exact .inl ⟨u, rfl, List.mem_append_right _ hu⟩
  | none =>
    obtain ⟨remarks, hexp⟩ := h.expanded
    obtain ⟨token, htoken⟩ := Context.exists_token_of_mem_expand hexp op hop
    exact .inr ⟨rfl, Context.countsAsWritten_of_operation htoken hremark⟩

/-- A run adds rows, and advice that leaves the same as what there is to advise about them. -/
theorem exists_advised_of_run (h : p.run ctx ds = .ok q) :
    ∃ rows advice added, q.rows = p.rows ++ rows ∧ q.advice = p.advice ++ added ∧
      Advised ctx p ds p.rows rows advice ∧
      firstsBy Advice.message added = firstsBy Advice.message advice := by
  induction ds generalizing p with
  | nil =>
    cases h
    exact ⟨[], [], [], (List.append_nil _).symm, (List.append_nil _).symm, .nil, rfl⟩
  | cons d ds ih =>
    obtain ⟨m, hstep, hrun⟩ := run_cons_eq_ok_iff.1 h
    obtain ⟨rows, advice, added, hrows, hadvice, hadvised, hfirsts⟩ := ih hrun
    obtain ⟨o, ho, rfl⟩ := step_eq_ok_iff.1 hstep
    cases ho with
    | unresolved | overLimit | empty =>
      exact ⟨rows, advice, added, hrows, hadvice, hadvised.cons hstep, hfirsts⟩
    | @row body op ops remarks hfound hexp =>
      refine ⟨_ :: rows, _, remarks.map (.round d.label) ++ added, ?_, ?_,
        .row (isRowOf_ofOperations ds hfound hexp) (hadvised.cons hstep), ?_⟩
      · rw [hrows]
        exact List.append_assoc ..
      · rw [hadvice]
        exact List.append_assoc ..
      · exact firstsBy_append_congr (Context.firstsBy_of_expand hexp d.label) hfirsts

end Progress

/-! ## Whole patterns -/

namespace Pattern

/-- The advice on a pattern is the first of each message that its rows are advised with. -/
theorem exists_advised {text : String} {settings : Settings} {heuristics : Heuristics}
    {glossary : Option Glossary} {starting : Option Int} {pat : Pattern}
    (h : ofText text settings heuristics glossary starting = .ok pat) :
    ∃ e advice, Extraction.ofText text = .ok e ∧
      Progress.Advised (context settings heuristics glossary)
        (start (starting.getD settings.starting) e) (Draft.sort e.drafts) [] pat.rows advice ∧
      pat.advice = firstsBy Advice.message advice ∧ ∀ r ∈ pat.rows, r.sequence ≠ [] := by
  obtain ⟨e, last, he, hrun, rfl⟩ := ofText_eq_ok_iff.1 h
  obtain ⟨rows, advice, added, hrows, hadvice, hadvised, hfirsts⟩ :=
    Progress.exists_advised_of_run hrun
  change last.rows = rows at hrows
  refine ⟨e, advice, he, ?_, ?_, fun r hr => ?_⟩
  · show Progress.Advised _ _ _ [] last.rows advice
    rw [hrows]
    exact hadvised
  · rw [← hfirsts]
    exact congrArg (firstsBy Advice.message) hadvice
  · exact (Progress.wellFormed_of_run (List.forall_mem_nil _) hrun r hr).steps

/-- The advice on a pattern is what its rows are advised about, and each message is given once.
The messages stand in the order in which they first come, row by row and in a row the one on a
block before those on the operations; there is no other message than one of a row on its block or on
one of its operations, and none of these is missing. So every operation of a row is either reported
or has the counts in which it is written. -/
theorem advice_of_rows {text : String} {settings : Settings} {heuristics : Heuristics}
    {glossary : Option Glossary} {starting : Option Int} {pat : Pattern}
    (h : ofText text settings heuristics glossary starting = .ok pat) :
    ∃ e, Extraction.ofText text = .ok e ∧
      let ctx := context settings heuristics glossary
      let p := start (starting.getD settings.starting) e
      let ds := Draft.sort e.drafts
      (∃ advice, Progress.Advised ctx p ds [] pat.rows advice ∧
        (pat.advice.map Advice.message).Pairwise fun v w =>
          (advice.map Advice.message).idxOf v < (advice.map Advice.message).idxOf w) ∧
      (pat.advice.map Advice.message).Nodup ∧
      (∀ w, w ∈ pat.advice.map Advice.message ↔ ∃ earlier r later d body ops,
        pat.rows = earlier ++ r :: later ∧ Progress.IsRowOf ctx p ds earlier r d body ops ∧
          ∃ u ∈ ctx.remarksOn body ops, w = s!"{r.label}: {u.message}") ∧
      ∀ earlier r later d body ops, pat.rows = earlier ++ r :: later →
        Progress.IsRowOf ctx p ds earlier r d body ops → ∀ op ∈ ops,
          (∃ u, op.remark = some u ∧
            s!"{r.label}: {u.message}" ∈ pat.advice.map Advice.message) ∨
          (op.remark = none ∧ ctx.CountsAsWritten r.startCount op) := by
  obtain ⟨e, advice, he, hadvised, hleft, hsteps⟩ := exists_advised h
  have hmem := fun w => hadvised.mem_map_message hsteps (w := w)
  have hkept : ∀ w, w ∈ pat.advice.map Advice.message ↔ w ∈ advice.map Advice.message := by
    intro w
    rw [hleft]
    exact mem_map_firstsBy
  refine ⟨e, he, ⟨advice, hadvised, ?_⟩, ?_, fun w => (hkept w).trans (hmem w), ?_⟩
  · rw [hleft]
    exact List.pairwise_map.2 pairwise_idxOf_firstsBy
  · rw [hleft]
    exact nodup_map_firstsBy
  · intro earlier r later d body ops hsplit hrow op hop
    rcases hrow.remarked_or_counted hop with ⟨u, hremark, hu⟩ | hcounted
    · refine .inl ⟨u, hremark, (hkept _).2 ((hmem _).2 ?_)⟩
      exact ⟨earlier, r, later, d, body, ops, hsplit, hrow, _, hu, rfl⟩
    · exact .inr hcounted

/-- A clamped block with a guess that comes twice in a copy, once more in another row of the same
name, and a round whose guess is lost with its row. -/
theorem advice_of_rows_of_clamped :
    let text := "Rnd 1: *k2, zz, k90, zz* rep from * 3 times\nRnd 1: k1, zz\nRnd 2: yy, *k9, k30"
    ∃ pat, ofText text { limits := ⟨2, 30⟩ } = .ok pat ∧
      pat.advice.map Advice.message =
        ["Rnd 1: Repeat count 3 exceeds 2; clamped to 2",
          "Rnd 1: Unrecognized instruction \"zz\" counted as 1 stitch",
          "Rnd 1: Instruction \"k90\" exceeds 30 stitches; counted as 1 stitch"] ∧
      (pat.advice.map Advice.message).Nodup ∧
      ∃ earlier r later, pat.rows = earlier ++ r :: later ∧ ∃ u : Body.Remark,
        s!"{r.label}: {u.message}" = "Rnd 1: Repeat count 3 exceeds 2; clamped to 2" := by
  intro text
  have hread : (ofText text { limits := ⟨2, 30⟩ }).toOption.map
      (fun pat => pat.advice.map Advice.message) =
        some ["Rnd 1: Repeat count 3 exceeds 2; clamped to 2",
          "Rnd 1: Unrecognized instruction \"zz\" counted as 1 stitch",
          "Rnd 1: Instruction \"k90\" exceeds 30 stitches; counted as 1 stitch"] := by
    decide +kernel
  obtain ⟨pat, h, hmessages⟩ := exists_eq_ok_of_toOption hread
  obtain ⟨e, -, -, hnodup, hmem, -⟩ := advice_of_rows h
  have hfirst : "Rnd 1: Repeat count 3 exceeds 2; clamped to 2" ∈
      pat.advice.map Advice.message := by
    rw [hmessages]
    exact List.mem_cons_self
  obtain ⟨earlier, r, later, d, body, ops, hrows, -, u, -, hu⟩ := (hmem _).1 hfirst
  exact ⟨pat, h, hmessages, hnodup, earlier, r, later, hrows, u, hu.symm⟩

end Pattern

end KnitPattern
