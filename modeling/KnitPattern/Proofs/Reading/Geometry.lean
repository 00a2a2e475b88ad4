/-
  The geometry of rows. An operation takes away fewer stitches than it fills cells and adds at
  most two, whatever its shape and however many stitches are live (`Balanced`). Summed over a row
  this bounds the count at its end by its cells and its steps; the cells are bounded by the limit
  on stitches, which every form of an instruction text is held to.
-/
import KnitPattern.Proofs.Body.Size
import KnitPattern.Proofs.Reading.Run

namespace KnitPattern

/-! ## One operation -/

/-- The operation takes away fewer stitches than it fills cells, and adds at most two. -/
structure Operation.Balanced (op : Operation) : Prop where
  loss : 1 - (op.units : Int) ≤ op.delta
  gain : op.delta ≤ 2

theorem Operation.balanced_guess (code label : String) (remark : Remark) :
    (guess code label remark).Balanced := by
  constructor <;> simp [guess, delta]

/-- The same bounds for the counts of a shape. -/
theorem Stitch.balanced_counts {st : Stitch} {c : Counts} (h : st.counts = .ok c) :
    1 - (c.units : Int) ≤ c.produce - c.consume ∧ (c.produce : Int) - c.consume ≤ 2 := by
  have heven : ∀ {n : Count}, n.read.map counts.even = .ok c →
      1 - (c.units : Int) ≤ c.produce - c.consume ∧ (c.produce : Int) - c.consume ≤ 2 := by
    intro n h
    obtain ⟨k, -, rfl⟩ := map_eq_ok_iff.1 h
    have hk := k.2
    simp only [counts.even]
    omega
  cases st with
  | cableHold | knitYarnKnit | yarnOver | centeredDecrease | single =>
    cases h
    decide
  | decrease n =>
    obtain ⟨k, -, rfl⟩ := map_eq_ok_iff.1 h
    have hk := k.2
    dsimp only
    omega
  | cableFromNeedle n | slip n | counted n => exact heven h

namespace Context

variable {ctx : Context} {live : Int}

theorem balanced_classify {token : String} {op : Operation} (h : ctx.classify token = .ok op) :
    op.Balanced := by
  rcases classify_eq_ok_iff.1 h with ⟨-, rfl⟩ | ⟨st, c, -, hcounts, hop⟩
  · exact Operation.balanced_guess _ _ _
  · obtain rfl := Operation.eq_of_written hop
    obtain ⟨hloss, hgain⟩ := Stitch.balanced_counts hcounts
    unfold limited
    split
    · exact Operation.balanced_guess _ _ _
    · exact ⟨hloss, hgain⟩

/-- To knit around fills a cell even if no stitch is live. -/
theorem balanced_aroundOperation (ctx : Context) (live : Int) :
    (ctx.aroundOperation live).Balanced := by
  have hdelta : (ctx.aroundOperation live).delta = 0 := Int.sub_self _
  have hunits := (ctx.aroundOperation live).units_pos
  constructor <;> omega

theorem balanced_operation {token : List Char} {op : Operation}
    (h : ctx.operation live token = .ok op) : op.Balanced := by
  unfold operation at h
  split at h
  · obtain ⟨-, rfl⟩ := around_eq_ok_iff.1 h
    exact ctx.balanced_aroundOperation live
  · exact balanced_classify (eq_ok_of_liftM h)

theorem balanced_of_expand {body : String} {e : Expansion} (h : ctx.expand live body = .ok e) :
    ∀ op ∈ e.operations, op.Balanced := by
  intro op hop
  obtain ⟨token, hop⟩ := exists_token_of_mem_expand h op hop
  exact balanced_operation hop

end Context

/-- Operations together: the cells beyond one for each bound the loss, and two for each the
gain. -/
theorem Operation.totalDelta_bounds {ops : List Operation} (h : ∀ op ∈ ops, op.Balanced) :
    ops.length - totalUnits ops ≤ totalDelta ops ∧ totalDelta ops ≤ 2 * ops.length := by
  induction ops with
  | nil => simp [totalUnits, totalDelta]
  | cons op ops ih =>
    obtain ⟨hop, hops⟩ := List.forall_mem_cons.1 h
    obtain ⟨hloss, hgain⟩ := hop
    have hunits : totalUnits (op :: ops) = op.units + totalUnits ops := rfl
    have hdelta : totalDelta (op :: ops) = op.delta + totalDelta ops := rfl
    specialize ih hops
    rw [hunits, hdelta, List.length_cons]
    omega

/-! ## Rows -/

/-- A row with steps, each of at least one cell and not too many cells together, whose count at
the end is within the bounds that its steps and cells set. -/
structure Row.Proportioned (most : Int) (r : Row) : Prop where
  steps : 1 ≤ r.sequence.length
  cells : r.sequence.length ≤ r.total
  limit : (r.total : Int) ≤ most
  start : 0 ≤ r.startCount
  loss : r.startCount - (r.total - r.sequence.length) ≤ r.endCount
  gain : (r.endCount : Int) ≤ r.startCount + 2 * r.sequence.length

theorem Row.total_ofOperations (d : Draft) (ops : List Operation) (start index : Int) :
    (ofOperations d ops start index).total = Operation.totalUnits ops := by
  unfold total ofOperations Operation.totalUnits
  rw [List.map_map]
  rfl

theorem Row.proportioned_ofOperations {d : Draft} {op : Operation} {ops : List Operation}
    {start index most : Int} (hstart : 0 ≤ start)
    (hunits : (Operation.totalUnits (op :: ops) : Int) ≤ most)
    (h : ∀ o ∈ op :: ops, o.Balanced) :
    (ofOperations d (op :: ops) start index).Proportioned most := by
  have hlen : (ofOperations d (op :: ops) start index).sequence.length = (op :: ops).length :=
    List.length_map _
  have hend : (ofOperations d (op :: ops) start index).endCount =
      (start + Operation.totalDelta (op :: ops)).toNat := rfl
  have hcells := Operation.length_le_totalUnits (op :: ops)
  obtain ⟨hloss, hgain⟩ := Operation.totalDelta_bounds h
  constructor
  · rw [hlen]
    exact Nat.succ_pos _
  · rwa [hlen, total_ofOperations]
  · rwa [total_ofOperations]
  · exact hstart
  · show start - _ ≤ _
    rw [hlen, hend, total_ofOperations]
    omega
  · show _ ≤ start + _
    rw [hlen, hend]
    omega

namespace Progress

variable {ctx : Context} {p q : Progress} {d : Draft} {ds : List Draft}

theorem proportioned_of_step (hrepeats : 1 ≤ ctx.limits.repeats)
    (hstitches : 1 ≤ ctx.limits.stitches)
    (hp : ∀ r ∈ p.rows, r.Proportioned ctx.limits.stitches) (h : p.step ctx d = .ok q) :
    ∀ r ∈ q.rows, r.Proportioned ctx.limits.stitches := by
  obtain ⟨o, ho, rfl⟩ := step_eq_ok_iff.1 h
  cases ho with
  | unresolved => exact hp
  | overLimit => exact hp
  | empty => exact hp
  | row _ hexp =>
    refine List.forall_mem_append.2 ⟨hp, List.forall_mem_singleton.2 ?_⟩
    exact Row.proportioned_ofOperations (Int.natCast_nonneg p.live)
      (Context.totalUnits_of_expand hrepeats hstitches hexp) (Context.balanced_of_expand hexp)

theorem proportioned_of_run (hrepeats : 1 ≤ ctx.limits.repeats)
    (hstitches : 1 ≤ ctx.limits.stitches)
    (hp : ∀ r ∈ p.rows, r.Proportioned ctx.limits.stitches) (h : p.run ctx ds = .ok q) :
    ∀ r ∈ q.rows, r.Proportioned ctx.limits.stitches :=
  run_induction (P := fun m => ∀ r ∈ m.rows, r.Proportioned ctx.limits.stitches)
    (fun _ _ _ hm hstep => proportioned_of_step hrepeats hstitches hm hstep) hp h

end Progress

/-! ## Whole patterns -/

namespace Pattern

/-- Every row of a pattern has at least one step, at least as many cells as steps and no more
cells than the limit on stitches. Its count at the end is not below that at the start by more than
its cells beyond one for each step, so it loses no more stitches than it has cells, and it gains
no more than two for each step. -/
theorem rows_proportioned {text : String} {settings : Settings} {heuristics : Heuristics}
    {glossary : Option Glossary} {starting : Option Int} {pat : Pattern}
    (h : ofText text settings heuristics glossary starting = .ok pat) :
    ∀ r ∈ pat.rows, r.Proportioned settings.limits.stitches ∧
      r.startCount - r.total ≤ r.endCount := by
  obtain ⟨e, last, -, hrun, rfl⟩ := ofText_eq_ok_iff.1 h
  intro r hr
  have hrow : r.Proportioned settings.limits.stitches :=
    Progress.proportioned_of_run settings.one_le_repeats settings.one_le_stitches
      (List.forall_mem_nil _) hrun r hr
  have hloss := hrow.loss
  exact ⟨hrow, by omega⟩

/-- A row that takes more stitches than are live, one to knit around without any, and one that
fills as many cells as it may. -/
theorem rows_proportioned_of_clamped :
    let text := "Rnd 1: cdd, k2tog, yo\nRnd 2: k around, k1yok1\n" ++
      "Rnd 3: *k3tog, yo* rep from * 2 times"
    ∃ pat, ofText text { limits := ⟨10, 8⟩ } .bundled none (some 1) = .ok pat ∧
      pat.rows.map (fun r => (r.sequence.length, r.total, r.startCount, r.endCount)) =
        [(3, 6, 1, 0), (2, 2, 0, 2), (4, 8, 2, 0)] ∧
      ∀ r ∈ pat.rows, r.Proportioned 8 ∧ r.startCount - r.total ≤ r.endCount := by
  intro text
  have hread : (ofText text { limits := ⟨10, 8⟩ } .bundled none (some 1)).toOption.map (fun pat =>
        pat.rows.map fun r => (r.sequence.length, r.total, r.startCount, r.endCount)) =
      some [(3, 6, 1, 0), (2, 2, 0, 2), (4, 8, 2, 0)] := by
    decide +kernel
  cases h : ofText text { limits := ⟨10, 8⟩ } .bundled none (some 1) with
  | error why =>
    rw [h] at hread
    cases hread
  | ok pat =>
    rw [h] at hread
    exact ⟨pat, rfl, Option.some.inj hread, rows_proportioned h⟩

end Pattern

end KnitPattern
