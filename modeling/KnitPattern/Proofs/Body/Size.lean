/-
  Sizes of what is knit. No operation makes more stitches or fills more cells than the limit on
  stitches (`atMost_of_operation`), and a text has at most one token more than characters. So the
  cells of a text are bounded by its length (`totalUnits_of_operations`), and the stitches that
  an expansion adds, since it has no more operations than stitches, by the limit alone
  (`totalDelta_of_expand`).
-/
import KnitPattern.Proofs.Body.Unrolling
import KnitPattern.Proofs.Stitch.Count
import KnitPattern.Proofs.Text.Size
import KnitPattern.Row
import Mathlib.Algebra.Order.Ring.Int

namespace KnitPattern

open Text Body

theorem Body.isAround_of_form {s : List Char} (h : form s = .around) : isAround s = true := by
  unfold form at h
  split at h
  · assumption
  · split at h <;> cases h

theorem Token.length_split_le (s : List Char) : (Token.split s).length ≤ s.length + 1 := by
  calc (Token.split s).length ≤ ((s.splitOnP isDelimiter).map clean).length :=
        List.length_filter_le _ _
    _ = (s.splitOnP isDelimiter).length := List.length_map _
    _ ≤ s.length + 1 := length_splitOnP_le _ _

/-! ## Operations -/

namespace Operation

/-- The operation neither makes more stitches nor fills more cells. -/
structure AtMost (most : Int) (op : Operation) : Prop where
  produce : (op.produce : Int) ≤ most
  units : (op.units : Int) ≤ most

/-- Every operation fills a cell. -/
theorem length_le_totalUnits (ops : List Operation) : ops.length ≤ totalUnits ops := by
  induction ops with
  | nil => exact Nat.le_refl 0
  | cons op ops ih =>
    have hunits := op.units_pos
    show ops.length + 1 ≤ op.units + totalUnits ops
    omega

variable {most : Int} {ops : List Operation}

theorem totalUnits_le (h : ∀ op ∈ ops, op.AtMost most) :
    (totalUnits ops : Int) ≤ ops.length * most := by
  induction ops with
  | nil =>
    show (0 : Int) ≤ 0 * most
    omega
  | cons op ops ih =>
    obtain ⟨hop, hops⟩ := List.forall_mem_cons.1 h
    have hunits := hop.units
    have hrest := ih hops
    show ((op.units + totalUnits ops : Nat) : Int) ≤ ((ops.length + 1 : Nat) : Int) * most
    rw [Int.natCast_add, Int.natCast_add, Int.add_mul, Int.natCast_one, Int.one_mul]
    omega

theorem totalDelta_le (h : ∀ op ∈ ops, op.AtMost most) :
    totalDelta ops ≤ ops.length * most := by
  induction ops with
  | nil =>
    show (0 : Int) ≤ 0 * most
    omega
  | cons op ops ih =>
    obtain ⟨hop, hops⟩ := List.forall_mem_cons.1 h
    have hproduce := hop.produce
    have hrest := ih hops
    show (op.produce : Int) - op.consume + totalDelta ops ≤ ((ops.length + 1 : Nat) : Int) * most
    rw [Int.natCast_add, Int.add_mul, Int.natCast_one, Int.one_mul]
    omega

/-- Operations within a limit that are no more than the limit. -/
theorem totalDelta_le_mul (hmost : 0 ≤ most) (h : ∀ op ∈ ops, op.AtMost most)
    (hlen : (ops.length : Int) ≤ most) : totalDelta ops ≤ most * most :=
  Int.le_trans (totalDelta_le h) (Int.mul_le_mul_of_nonneg_right hlen hmost)

end Operation

namespace Context

variable {ctx : Context} {live : Int}

theorem atMost_of_classify (hstitches : 1 ≤ ctx.limits.stitches) {token : String}
    {op : Operation} (h : ctx.classify token = .ok op) : op.AtMost ctx.limits.stitches := by
  rcases classify_eq_ok_iff.1 h with ⟨-, rfl⟩ | ⟨st, c, -, -, hop⟩
  · exact ⟨hstitches, hstitches⟩
  · obtain rfl := Operation.eq_of_written hop
    unfold limited
    split
    · exact ⟨hstitches, hstitches⟩
    · next hwidest =>
      have hproduce : c.produce ≤ c.widest :=
        Nat.le_trans (Nat.le_max_right _ _) (Nat.le_max_left _ _)
      have hunits : c.units ≤ c.widest := Nat.le_max_right _ _
      constructor
      · show (c.produce : Int) ≤ _
        omega
      · show (c.units : Int) ≤ _
        omega

theorem atMost_of_around (hstitches : 1 ≤ ctx.limits.stitches) {op : Operation}
    (h : ctx.around live = .ok op) : op.AtMost ctx.limits.stitches := by
  obtain ⟨hlive, rfl⟩ := around_eq_ok_iff.1 h
  have hcount : (((max 1 live).toNat : Nat) : Int) ≤ ctx.limits.stitches := by omega
  exact ⟨hcount, hcount⟩

theorem atMost_of_operation (hstitches : 1 ≤ ctx.limits.stitches) {token : List Char}
    {op : Operation} (h : ctx.operation live token = .ok op) :
    op.AtMost ctx.limits.stitches := by
  unfold operation at h
  split at h
  · exact atMost_of_around hstitches h
  · exact atMost_of_classify hstitches (eq_ok_of_liftM h)

variable {inner : List Char} {ops : List Operation}

theorem atMost_of_operations (hstitches : 1 ≤ ctx.limits.stitches)
    (h : ctx.operations live inner = .ok ops) : ∀ op ∈ ops, op.AtMost ctx.limits.stitches := by
  intro op hop
  obtain ⟨token, -, hop⟩ := exists_of_mem_mapM h hop
  exact atMost_of_operation hstitches hop

theorem totalUnits_of_operations (hstitches : 1 ≤ ctx.limits.stitches)
    (h : ctx.operations live inner = .ok ops) :
    (Operation.totalUnits ops : Int) ≤ (inner.length + 1) * ctx.limits.stitches := by
  have hlen : ops.length ≤ inner.length + 1 := by
    rw [← (mapM_eq_ok_iff.1 h).length_eq]
    exact Token.length_split_le inner
  calc (Operation.totalUnits ops : Int) ≤ ops.length * ctx.limits.stitches :=
        Operation.totalUnits_le (atMost_of_operations hstitches h)
    _ ≤ (inner.length + 1) * ctx.limits.stitches :=
        Int.mul_le_mul_of_nonneg_right (by omega) (by omega)

/-- So many copies of a text as the limit on repeats allows. -/
theorem totalUnits_mul_le (hstitches : 1 ≤ ctx.limits.stitches)
    (h : ctx.operations live inner = .ok ops) {size : Nat} (hsize : inner.length ≤ size) {n : Int}
    (hn : 0 ≤ n) (hrepeats : n ≤ ctx.limits.repeats) :
    Operation.totalUnits ops * n ≤ (size + 1) * (ctx.limits.stitches * ctx.limits.repeats) := by
  have hunits : (Operation.totalUnits ops : Int) ≤ (size + 1) * ctx.limits.stitches :=
    Int.le_trans (totalUnits_of_operations hstitches h)
      (Int.mul_le_mul_of_nonneg_right (by omega) (by omega))
  have hlimit : 0 ≤ ((size : Int) + 1) * ctx.limits.stitches :=
    Int.mul_nonneg (by omega) (by omega)
  rw [← Int.mul_assoc]
  exact Int.mul_le_mul hunits hrepeats hn hlimit

/-! ## Expansions -/

theorem allowed_nonneg (hrepeats : 1 ≤ ctx.limits.repeats) (times : List Char) :
    0 ≤ ctx.allowed times := by
  unfold allowed
  omega

/-- Every operation of an expansion is that of a token, at the same live count. -/
theorem exists_token_of_mem_expand {body : String} {e : Expansion}
    (h : ctx.expand live body = .ok e) :
    ∀ op ∈ e.operations, ∃ token, ctx.operation live token = .ok op := by
  have hlist : ∀ {text : List Char} {ops : List Operation}, ctx.operations live text = .ok ops →
      ∀ op ∈ ops, ∃ token, ctx.operation live token = .ok op := by
    intro text ops hops op hop
    obtain ⟨token, -, hop⟩ := exists_of_mem_mapM hops hop
    exact ⟨token, hop⟩
  rw [ctx.expand_eq] at h
  cases hform : form (trim body.toList) with
  | around =>
    rw [hform] at h
    obtain ⟨op, hop, h⟩ := bind_eq_ok_iff.1 h
    cases h
    refine List.forall_mem_singleton.2 ⟨trim body.toList, ?_⟩
    rwa [operation, if_pos (isAround_of_form hform)]
  | block inner times =>
    rw [hform] at h
    obtain ⟨-, -, ops, hops, -, -, -, rfl⟩ := expandBlock_eq_ok_iff.1 h
    intro op hop
    rw [copies_eq] at hop
    obtain ⟨copy, hcopy, hop⟩ := List.mem_flatten.1 hop
    rw [(List.mem_replicate.1 hcopy).2] at hop
    exact hlist hops op hop
  | plain text =>
    rw [hform] at h
    obtain ⟨ops, hops, -, rfl⟩ := expandPlain_eq_ok_iff.1 h
    exact hlist hops

/-- An expansion fills no more cells than the limit on stitches. -/
theorem totalUnits_of_expand (hrepeats : 1 ≤ ctx.limits.repeats)
    (hstitches : 1 ≤ ctx.limits.stitches) {body : String} {e : Expansion}
    (h : ctx.expand live body = .ok e) :
    (Operation.totalUnits e.operations : Int) ≤ ctx.limits.stitches := by
  rw [ctx.expand_eq] at h
  cases hform : form (trim body.toList) with
  | around =>
    rw [hform] at h
    obtain ⟨op, hop, h⟩ := bind_eq_ok_iff.1 h
    cases h
    show ((op.units + 0 : Nat) : Int) ≤ _
    rw [Nat.add_zero]
    exact (atMost_of_around hstitches hop).units
  | block inner times =>
    rw [hform] at h
    obtain ⟨-, -, ops, -, hunits, -, -, rfl⟩ := expandBlock_eq_ok_iff.1 h
    rwa [Operation.totalUnits_copies, Int.natCast_mul,
      Int.toNat_of_nonneg (allowed_nonneg hrepeats times)]
  | plain text =>
    rw [hform] at h
    obtain ⟨ops, -, hunits, rfl⟩ := expandPlain_eq_ok_iff.1 h
    exact hunits

/-- An expansion has operations within the limit on stitches, and no more of them. -/
theorem atMost_of_expand (hrepeats : 1 ≤ ctx.limits.repeats)
    (hstitches : 1 ≤ ctx.limits.stitches) {body : String} {e : Expansion}
    (h : ctx.expand live body = .ok e) :
    (∀ op ∈ e.operations, op.AtMost ctx.limits.stitches) ∧
      (e.operations.length : Int) ≤ ctx.limits.stitches := by
  constructor
  · intro op hop
    obtain ⟨token, hop⟩ := exists_token_of_mem_expand h op hop
    exact atMost_of_operation hstitches hop
  · have hlen := Operation.length_le_totalUnits e.operations
    have hunits := totalUnits_of_expand hrepeats hstitches h
    omega

theorem totalDelta_of_expand (hrepeats : 1 ≤ ctx.limits.repeats)
    (hstitches : 1 ≤ ctx.limits.stitches) {body : String} {e : Expansion}
    (h : ctx.expand live body = .ok e) :
    Operation.totalDelta e.operations ≤ ctx.limits.stitches * ctx.limits.stitches := by
  obtain ⟨hops, hlen⟩ := atMost_of_expand hrepeats hstitches h
  exact Operation.totalDelta_le_mul (by omega) hops hlen

end Context

end KnitPattern
