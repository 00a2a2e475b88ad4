/-
  Limits that are raised. Where the limits of a context are raised and nothing is due to the old
  ones, every instruction text is expanded as before (`stays_of_widened`). Remarks of a text
  without operations are lost with its row, so such a text may be due to the old limits without a
  trace; it still has no operations, unless its copies cannot be counted any more.
-/
import KnitPattern.Proofs.Body.Size

namespace KnitPattern

open Text Body

/-! ## What is due to the limits -/

/-- The remark is due to the limit on stitches. -/
def Operation.Remark.ofLimits : Remark → Bool
  | tooWide _ _ => true
  | unrecognized _ | noted _ => false

/-- The remark is due to a limit. -/
def Body.Remark.ofLimits : Remark → Bool
  | clamped _ _ => true
  | operation remark => remark.ofLimits

/-- The remark was made in reading, not given by a caller. -/
def Operation.Remark.Made : Remark → Prop
  | unrecognized _ | tooWide _ _ => True
  | noted _ => False

/-- The remark was made in reading, not given by a caller. -/
def Body.Remark.Made : Body.Remark → Prop
  | clamped _ _ => True
  | operation remark => remark.Made

theorem head?_toList_append {s : String} {c : Char} (h : s.toList.head? = some c) (t : String) :
    (s ++ t).toList.head? = some c := by
  rw [String.toList_append, List.head?_append, h]
  rfl

/-- The message of a remark tells whether it is due to a limit. -/
theorem Body.Remark.head?_message {r : Body.Remark} (h : r.Made) :
    r.message.toList.head? = some 'U' ↔ r.ofLimits = false := by
  have hclamped : "Repeat count ".toList.head? = some 'R' := by decide +kernel
  have hwide : "Instruction \"".toList.head? = some 'I' := by decide +kernel
  have hunrecognized : "Unrecognized instruction \"".toList.head? = some 'U' := by decide +kernel
  cases r with
  | clamped times limit =>
    have hhead : (clamped times limit).message.toList.head? = some 'R' := by
      unfold message
      iterate 5 apply head?_toList_append
      exact hclamped
    rw [hhead]
    exact ⟨nofun, nofun⟩
  | operation remark =>
    cases remark with
    | unrecognized code =>
      have hhead : (operation (.unrecognized code)).message.toList.head? = some 'U' := by
        unfold message Operation.Remark.message
        iterate 2 apply head?_toList_append
        exact hunrecognized
      exact iff_of_true hhead rfl
    | tooWide code limit =>
      have hhead : (operation (.tooWide code limit)).message.toList.head? = some 'I' := by
        unfold message Operation.Remark.message
        iterate 4 apply head?_toList_append
        exact hwide
      rw [hhead]
      exact ⟨nofun, nofun⟩
    | noted text => cases h

/-- The round is rejected for the limit on stitches. -/
def Rejection.ofLimits : Rejection → Bool
  | overLimit _ _ => true
  | unresolved _ | noInstructions => false

/-- The operation is not one that stands for an instruction over the limit. -/
def Operation.WithinLimits (op : Operation) : Prop :=
  ∀ r ∈ op.remark, r.ofLimits = false

theorem Operation.withinLimits_of_remarks {ops : List Operation}
    (h : ∀ r ∈ remarks ops, r.ofLimits = false) : ∀ op ∈ ops, op.WithinLimits := by
  intro op hop r hr
  refine h (.operation r) (List.mem_map.2 ⟨r, ?_, rfl⟩)
  exact List.mem_filterMap.2 ⟨op, hop, hr⟩

/-- Another context with the same labels, whose limits are not lower. -/
structure Context.Widened (ctx ctx' : Context) : Prop where
  glossary : ctx'.glossary = ctx.glossary
  heuristics : ctx'.heuristics = ctx.heuristics
  repeats : ctx.limits.repeats ≤ ctx'.limits.repeats
  stitches : ctx.limits.stitches ≤ ctx'.limits.stitches

namespace Context

variable {ctx ctx' : Context} {live : Int}

/-! ## Operations -/

theorem Widened.label (w : ctx.Widened ctx') (code : String) :
    ctx'.label code = ctx.label code := by
  unfold Context.label
  rw [w.glossary, w.heuristics]

theorem Widened.limited (w : ctx.Widened ctx') {token : String} {c : Stitch.Counts}
    (h : (ctx.limited token c).WithinLimits) : ctx'.limited token c = ctx.limited token c := by
  have hstitches := w.stitches
  unfold Context.limited at h ⊢
  split at h
  · cases h _ rfl
  · rw [if_neg (by omega), w.label]
    split
    · contradiction
    · rfl

/-- A token has an operation under either limit, and the same one if it is within the lower. -/
theorem Widened.classify (w : ctx.Widened ctx') (hstitches : 1 ≤ ctx.limits.stitches)
    {token : String} {op : Operation} (h : ctx.classify token = .ok op) :
    ∃ op', ctx'.classify token = .ok op' ∧ (op.WithinLimits → op' = op) := by
  have hlow := Halt.neg_lt_of_pos (Int.le_trans hstitches w.stitches)
  rcases classify_eq_ok_iff.1 h with ⟨hnone, rfl⟩ | ⟨st, c, hst, hcounts, hop⟩
  · exact ⟨_, classify_eq_ok_iff.2 (.inl ⟨hnone, rfl⟩), fun _ => by rw [w.label]⟩
  · obtain rfl := Operation.eq_of_written hop
    exact ⟨_, classify_eq_ok_iff.2 (.inr ⟨st, c, hst, hcounts, written_limited hcounts hlow⟩),
      w.limited⟩

theorem Widened.around (w : ctx.Widened ctx') {op : Operation} (h : ctx.around live = .ok op) :
    ctx'.around live = .ok op := by
  have hstitches := w.stitches
  obtain ⟨hlive, rfl⟩ := around_eq_ok_iff.1 h
  refine around_eq_ok_iff.2 ⟨by omega, ?_⟩
  unfold aroundOperation
  rw [w.label]

theorem Widened.operation (w : ctx.Widened ctx') (hstitches : 1 ≤ ctx.limits.stitches)
    {token : List Char} {op : Operation} (h : ctx.operation live token = .ok op) :
    ∃ op', ctx'.operation live token = .ok op' ∧ (op.WithinLimits → op' = op) := by
  unfold Context.operation at h ⊢
  split at h
  · next haround =>
    rw [if_pos haround]
    exact ⟨op, w.around h, fun _ => rfl⟩
  · next hcode =>
    obtain ⟨op', hop, heq⟩ := w.classify hstitches (eq_ok_of_liftM h)
    rw [if_neg hcode, hop]
    exact ⟨op', rfl, heq⟩

theorem Widened.operations (w : ctx.Widened ctx') (hstitches : 1 ≤ ctx.limits.stitches)
    {text : List Char} {ops : List Operation} (h : ctx.operations live text = .ok ops) :
    ∃ ops', ctx'.operations live text = .ok ops' ∧ ops'.length = ops.length ∧
      ((∀ op ∈ ops, op.WithinLimits) → ops' = ops) := by
  unfold Context.operations at h ⊢
  simp only [mapM_eq_ok_iff] at h ⊢
  generalize Token.split text = tokens at h ⊢
  induction h with
  | nil => exact ⟨[], .nil, rfl, fun _ => rfl⟩
  | cons hop _ ih =>
    obtain ⟨op', hop', heq⟩ := w.operation hstitches hop
    obtain ⟨ops', hops', hlen, heqs⟩ := ih
    refine ⟨op' :: ops', .cons hop' hops', by simp [hlen], fun hall => ?_⟩
    obtain ⟨hone, hrest⟩ := List.forall_mem_cons.1 hall
    rw [heq hone, heqs hrest]

/-! ## Texts -/

/-- What becomes of an expansion when the limits are raised: it stays if it has operations and no
remark is due to the limits, and one without operations gets none, unless copies cannot be
counted. -/
structure Stays (read : Except Stop Expansion) (e : Expansion) : Prop where
  same : e.operations ≠ [] → (∀ r ∈ e.remarks, r.ofLimits = false) → read = .ok e
  empty : e.operations = [] →
    (∃ remarks, read = .ok ⟨[], remarks⟩) ∨ read = .error (.halted .tooManyCopies)

theorem Widened.expandPlain (w : ctx.Widened ctx') (hstitches : 1 ≤ ctx.limits.stitches)
    {text : List Char} {e : Expansion} (h : ctx.expandPlain live text = .ok e) :
    Stays (ctx'.expandPlain live text) e := by
  have hwide := w.stitches
  obtain ⟨ops, hops, hunits, rfl⟩ := expandPlain_eq_ok_iff.1 h
  obtain ⟨ops', hops', hlen, heq⟩ := w.operations hstitches hops
  constructor
  · intro _ hremarks
    have hsame := heq (Operation.withinLimits_of_remarks hremarks)
    subst hsame
    exact expandPlain_eq_ok_iff.2 ⟨ops', hops', by omega, rfl⟩
  · intro hnil
    have hnone : ops' = [] := by
      rw [← List.length_eq_zero_iff, hlen, show ops = [] from hnil, List.length_nil]
    subst hnone
    exact .inl ⟨[], expandPlain_eq_ok_iff.2 ⟨[], hops', by simp [Operation.totalUnits]; omega, rfl⟩⟩

/-- A block that is not clamped is repeated as often under the higher limit. -/
theorem Widened.allowed (w : ctx.Widened ctx') {times : List Char}
    (h : ∀ r ∈ ctx.clampRemarks times, r.ofLimits = false) :
    ctx'.allowed times = ctx.allowed times ∧ ctx'.clampRemarks times = ctx.clampRemarks times := by
  have hrepeats := w.repeats
  unfold Context.allowed clampRemarks at *
  split at h
  · cases h _ List.mem_cons_self
  · next hle =>
    rw [if_neg (by omega), if_neg hle]
    exact ⟨by omega, rfl⟩

theorem copies_eq_nil_iff {α : Type} {n : Nat} {as : List α} :
    copies n as = [] ↔ as.length * n = 0 := by
  rw [← List.length_eq_zero_iff, length_copies]

/-- A block without operations has none under the higher limit, or too many copies of nothing. -/
theorem Widened.expandBlock_empty (w : ctx.Widened ctx') (hrepeats : 1 ≤ ctx.limits.repeats)
    (hstitches : 1 ≤ ctx.limits.stitches) {inner times : List Char} {ops : List Operation}
    (hlen : times.length ≤ Halt.digitLimit) (hops : ctx'.operations live inner = .ok ops)
    (hnone : ops.length * (ctx'.allowed times).toNat = 0) :
    (∃ remarks, ctx'.expandBlock live inner times = .ok ⟨[], remarks⟩) ∨
      ctx'.expandBlock live inner times = .error (.halted .tooManyCopies) := by
  have hrepeats' : 1 ≤ ctx'.limits.repeats := Int.le_trans hrepeats w.repeats
  have hunits : Operation.totalUnits ops * ctx'.allowed times ≤ ctx'.limits.stitches := by
    have hwide := w.stitches
    rcases Nat.mul_eq_zero.1 hnone with h | h
    · rw [List.length_eq_zero_iff.1 h]
      simp [Operation.totalUnits]
      omega
    · have hnonneg : 0 ≤ ctx'.allowed times := allowed_nonneg hrepeats' times
      have hzero : ctx'.allowed times = 0 := by omega
      rw [hzero, Int.mul_zero]
      omega
  cases hcount : Halt.isCopyCount (ctx'.allowed times) with
  | true =>
    refine .inl ⟨ctx'.clampRemarks times ++ Operation.remarks ops, expandBlock_eq_ok_iff.2
      ⟨hlen, ctx'.clamp_eq hrepeats' hlen, ops, hops, hunits, hcount, ?_, ?_⟩⟩
    · rw [hnone]
      decide +kernel
    · rw [copies_eq_nil_iff.2 hnone]
  | false =>
    refine .inr ?_
    rw [ctx'.expandBlock_eq live hrepeats' inner hlen, hops]
    show (ctx'.checkStitches _).bind _ = _
    rw [ctx'.checkStitches_of_le hunits]
    exact if_pos hcount

theorem Widened.expandBlock (w : ctx.Widened ctx') (hrepeats : 1 ≤ ctx.limits.repeats)
    (hstitches : 1 ≤ ctx.limits.stitches) {inner times : List Char} {e : Expansion}
    (h : ctx.expandBlock live inner times = .ok e) :
    Stays (ctx'.expandBlock live inner times) e := by
  obtain ⟨hlen, -, ops, hops, hunits, hcount, hroom, rfl⟩ := expandBlock_eq_ok_iff.1 h
  obtain ⟨ops', hops', hlength, heq⟩ := w.operations hstitches hops
  have hclamp' := ctx'.clamp_eq (Int.le_trans hrepeats w.repeats) hlen
  constructor
  · intro _ hremarks
    obtain ⟨hclamp, hremarks⟩ := List.forall_mem_append.1 hremarks
    have hsame := heq (Operation.withinLimits_of_remarks hremarks)
    obtain ⟨hallowed, hclamped⟩ := w.allowed hclamp
    have hstitches := w.stitches
    subst hsame
    rw [← hallowed] at hunits hcount hroom ⊢
    rw [← hclamped]
    exact expandBlock_eq_ok_iff.2 ⟨hlen, hclamp', ops', hops', by omega, hcount, hroom, rfl⟩
  · intro hnil
    refine w.expandBlock_empty hrepeats hstitches hlen hops' ?_
    rw [hlength]
    have hrepeats' := w.repeats
    rcases Nat.mul_eq_zero.1 (copies_eq_nil_iff.1 hnil) with h | h
    · rw [h, Nat.zero_mul]
    · -- no copies are asked for
      unfold Context.allowed at h ⊢
      rw [Nat.mul_eq_zero]
      omega

/-- An expansion stays when the limits are raised, as far as nothing in it is due to them. -/
theorem stays_of_widened (w : ctx.Widened ctx') (hrepeats : 1 ≤ ctx.limits.repeats)
    (hstitches : 1 ≤ ctx.limits.stitches) {body : String} {e : Expansion}
    (h : ctx.expand live body = .ok e) : Stays (ctx'.expand live body) e := by
  rw [expand_eq] at h ⊢
  cases hform : form (trim body.toList) with
  | around =>
    rw [hform] at h
    obtain ⟨op, hop, h⟩ := bind_eq_ok_iff.1 h
    cases h
    refine ⟨fun _ _ => ?_, nofun⟩
    exact bind_eq_ok_iff.2 ⟨op, w.around hop, rfl⟩
  | block inner times =>
    rw [hform] at h
    exact w.expandBlock hrepeats hstitches h
  | plain text =>
    rw [hform] at h
    exact w.expandPlain hstitches h

/-! ## Remarks and rejections -/

theorem made_of_operation {token : List Char} {op : Operation}
    (h : ctx.operation live token = .ok op) : ∀ r ∈ op.remark, r.Made := by
  unfold Context.operation at h
  split at h
  · obtain ⟨-, rfl⟩ := around_eq_ok_iff.1 h
    exact fun r hr => absurd hr (Option.not_mem_none r)
  · replace h := eq_ok_of_liftM h
    rcases classify_eq_ok_iff.1 h with ⟨-, rfl⟩ | ⟨st, c, -, -, hop⟩
    · exact fun r hr => Option.some.inj hr ▸ trivial
    · obtain rfl := Operation.eq_of_written hop
      unfold Context.limited
      split
      · exact fun r hr => Option.some.inj hr ▸ trivial
      · exact fun r hr => absurd hr (Option.not_mem_none r)

theorem made_of_operations {text : List Char} {ops : List Operation}
    (h : ctx.operations live text = .ok ops) : ∀ r ∈ Operation.remarks ops, r.Made := by
  intro r hr
  obtain ⟨remark, hremark, rfl⟩ := List.mem_map.1 hr
  obtain ⟨op, hop, hremark⟩ := List.mem_filterMap.1 hremark
  obtain ⟨token, -, hop⟩ := exists_of_mem_mapM h hop
  exact made_of_operation hop remark hremark

/-- No remark on an instruction text is given by a caller. -/
theorem made_of_expand {body : String} {e : Expansion} (h : ctx.expand live body = .ok e) :
    ∀ r ∈ e.remarks, r.Made := by
  rw [ctx.expand_eq] at h
  cases hform : form (trim body.toList) with
  | around =>
    rw [hform] at h
    obtain ⟨op, -, h⟩ := bind_eq_ok_iff.1 h
    cases h
    exact List.forall_mem_nil _
  | block inner times =>
    rw [hform] at h
    obtain ⟨-, -, ops, hops, -, -, -, rfl⟩ := expandBlock_eq_ok_iff.1 h
    refine List.forall_mem_append.2 ⟨?_, made_of_operations hops⟩
    unfold clampRemarks
    split
    · exact List.forall_mem_singleton.2 trivial
    · exact List.forall_mem_nil _
  | plain text =>
    rw [hform] at h
    obtain ⟨ops, hops, -, rfl⟩ := expandPlain_eq_ok_iff.1 h
    exact made_of_operations hops

theorem ofLimits_of_checkStitches {units : Int} {why : Rejection}
    (h : ctx.checkStitches units = .error (.rejected why)) : why.ofLimits = true := by
  unfold checkStitches at h
  split at h
  · split at h
    · cases h
      rfl
    · cases h
  · cases h

theorem ofLimits_of_operations {text : List Char} {why : Rejection}
    (h : ctx.operations live text = .error (.rejected why)) : why.ofLimits = true := by
  obtain ⟨token, -, h⟩ := exists_of_mapM_eq_error h
  unfold Context.operation at h
  split at h
  · rcases bind_eq_error_iff.1 h with h | ⟨_, -, h⟩
    · exact ofLimits_of_checkStitches h
    · cases h
  · cases hop : ctx.classify (String.ofList token) with
    | error why =>
      rw [hop] at h
      cases h
    | ok op =>
      rw [hop] at h
      cases h

theorem ofLimits_of_expandBlock {inner times : List Char} {why : Rejection}
    (h : ctx.expandBlock live inner times = .error (.rejected why)) : why.ofLimits = true := by
  by_cases hlen : times.length ≤ Halt.digitLimit
  · rw [ctx.expandBlock_eq_bind live inner hlen] at h
    rcases bind_eq_error_iff.1 h with h | ⟨ops, -, h⟩
    · exact ofLimits_of_operations h
    rcases bind_eq_error_iff.1 h with h | ⟨_, -, h⟩
    · exact absurd h (ctx.clamp_ne_rejected _ why)
    rcases bind_eq_error_iff.1 h with h | ⟨_, -, h⟩
    · exact ofLimits_of_checkStitches h
    split at h
    · cases h
    split at h <;> cases h
  · -- the numeral halts the reading before anything is rejected
    rcases bind_eq_error_iff.1 h with h | ⟨ops, -, h⟩
    · exact ofLimits_of_operations h
    rw [Numeral.read, if_neg hlen] at h
    cases h

/-- A body that is found is rejected for the limit on stitches, and for nothing else. -/
theorem ofLimits_of_expand {body : String} {why : Rejection}
    (h : ctx.expand live body = .error (.rejected why)) : why.ofLimits = true := by
  rw [expand_eq] at h
  cases hform : form (trim body.toList) with
  | around =>
    rw [hform] at h
    rcases bind_eq_error_iff.1 h with h | ⟨_, -, h⟩
    · rcases bind_eq_error_iff.1 h with h | ⟨_, -, h⟩
      · exact ofLimits_of_checkStitches h
      · cases h
    · cases h
  | block inner times =>
    rw [hform] at h
    exact ofLimits_of_expandBlock h
  | plain text =>
    rw [hform] at h
    rcases bind_eq_error_iff.1 h with h | ⟨ops, -, h⟩
    · exact ofLimits_of_operations h
    rcases bind_eq_error_iff.1 h with h | ⟨_, -, h⟩
    · exact ofLimits_of_checkStitches h
    · cases h

end Context

end KnitPattern
