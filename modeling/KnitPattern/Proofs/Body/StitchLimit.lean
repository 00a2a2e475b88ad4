/-
  The limit on stitches. The tokens of a text stand for operations whatever the limit is
  (`StandFor`), to knit around for one cell at least. A body is refused exactly if it `Exceeds` the
  limit: it knits around too many live stitches, or its copies fill too many cells together. All
  three forms of a body read its tokens, check the cells of all copies and then lay these out
  (`expand_eq_layOut`), so the one limit holds for each of them. What is not refused has all of its
  copies, unless these cannot be counted or laid out (`expand_held_to_limit`).
-/
import KnitPattern.Proofs.Body.Halts
import KnitPattern.Proofs.Stitch.Unambiguous

namespace KnitPattern

open Text Body

/-- The text of a body that is cut into tokens: that of its block, or else all of it. -/
def Body.tokenText (body : String) : List Char :=
  match form (trim body.toList) with
  | .block inner _ => inner
  | .around => body.toList
  | .plain _ => body.toList

/-- Whether a body is a repeat block. -/
def Body.isBlock (body : String) : Bool :=
  match form (trim body.toList) with
  | .block _ _ => true
  | .around => false
  | .plain _ => false

namespace Context

variable {ctx : Context} {live : Int} {body : String} {text : List Char} {ops : List Operation}

/-- How often the tokens of a body are repeated. -/
def timesOf (ctx : Context) (body : String) : Int :=
  match form (trim body.toList) with
  | .block _ times => ctx.allowed times
  | .around => 1
  | .plain _ => 1

/-- What is remarked about a body as a block. -/
def blockRemarks (ctx : Context) (body : String) : List Remark :=
  match form (trim body.toList) with
  | .block _ times => ctx.clampRemarks times
  | .around => []
  | .plain _ => []

theorem timesOf_nonneg (hrepeats : 1 ≤ ctx.limits.repeats) (body : String) :
    0 ≤ ctx.timesOf body := by
  unfold timesOf
  split
  · exact allowed_nonneg hrepeats _
  · exact Int.one_nonneg
  · exact Int.one_nonneg

/-- A body that is no block is read as a whole and once. -/
theorem whole_of_not_block (ctx : Context) (h : isBlock body = false) :
    tokenText body = body.toList ∧ ctx.timesOf body = 1 ∧ ctx.blockRemarks body = [] := by
  unfold isBlock at h
  unfold tokenText timesOf blockRemarks
  generalize form (trim body.toList) = f at h ⊢
  cases f with
  | around | plain _ => exact ⟨rfl, rfl, rfl⟩
  | block _ _ => cases h

/-! ## Tokens -/

/-- The operations that tokens stand for. To knit around stands for every live stitch, and for one
if none is live. -/
def StandFor (ctx : Context) (live : Int) : List (List Char) → List Operation → Prop :=
  List.Forall₂ fun token op =>
    if isAround token then op = ctx.aroundOperation live
    else ctx.classify (String.ofList token) = .ok op

/-- Tokens without overlong runs of digits stand for operations. -/
theorem exists_standFor (hstitches : 1 ≤ ctx.limits.stitches) (live : Int)
    {tokens : List (List Char)}
    (hruns : ∀ token ∈ tokens, ∀ ds, DigitRun ds token → ds.length ≤ Halt.digitLimit) :
    ∃ ops, ctx.StandFor live tokens ops := by
  induction tokens with
  | nil => exact ⟨[], .nil⟩
  | cons token tokens ih =>
    obtain ⟨hone, hrest⟩ := List.forall_mem_cons.1 hruns
    obtain ⟨ops, hops⟩ := ih hrest
    rw [← String.toList_ofList (l := token)] at hone
    obtain ⟨op, hop⟩ := exists_classify_eq_ok hstitches hone
    by_cases haround : isAround token = true
    · exact ⟨ctx.aroundOperation live :: ops, .cons (by rw [if_pos haround]) hops⟩
    · exact ⟨op :: ops, .cons (by rwa [if_neg haround]) hops⟩

/-- Within the limit, tokens are read as what they stand for. -/
theorem operations_of_standFor (h : ctx.StandFor live (Token.split text) ops)
    (hlive : ctx.limits.stitches < live → ∀ token ∈ Token.split text, ¬ isAround token = true) :
    ctx.operations live text = .ok ops := by
  refine mapM_eq_ok_iff.2 ?_
  generalize Token.split text = tokens at h hlive
  induction h with
  | nil => exact .nil
  | @cons token op tokens ops hop _ ih =>
    refine .cons ?_ (ih fun hover t ht => hlive hover t (List.mem_cons_of_mem _ ht))
    rw [operation]
    split
    · next haround =>
      rw [if_pos haround] at hop
      refine around_eq_ok_iff.2 ⟨?_, hop⟩
      by_contra hover
      exact hlive (Int.not_le.1 hover) token List.mem_cons_self haround
    · next haround =>
      rw [if_neg haround] at hop
      rw [hop]
      rfl

/-- What a number of stitches over the limit is refused with, which is a halt if the number or the
limit cannot be written. -/
def refusal (ctx : Context) (units : Int) : Stop :=
  if Halt.isWritable units && Halt.isWritable ctx.limits.stitches then
    .rejected (.overLimit units ctx.limits.stitches)
  else .halted .numberTooLong

theorem checkStitches_of_lt {units : Int} (h : ctx.limits.stitches < units) :
    ctx.checkStitches units = .error (ctx.refusal units) := by
  rw [checkStitches, if_pos h, refusal]
  split <;> rfl

/-- To knit around too many stitches is refused at the first token that says so. -/
theorem operations_of_around (h : ctx.StandFor live (Token.split text) ops)
    (hlive : ctx.limits.stitches < live) (haround : ∃ token ∈ Token.split text, isAround token) :
    ctx.operations live text = .error (ctx.refusal live) := by
  have hrefused : ctx.around live = .error (ctx.refusal live) := by
    rw [around, checkStitches_of_lt hlive]
    rfl
  unfold operations
  generalize Token.split text = tokens at h haround
  induction h with
  | nil =>
    obtain ⟨token, hmem, -⟩ := haround
    cases hmem
  | @cons token op tokens ops hop _ ih =>
    rw [List.mapM_cons, operation]
    by_cases hone : isAround token = true
    · rw [if_pos hone, hrefused]
      rfl
    · rw [if_neg hone] at hop ⊢
      obtain ⟨t, hmem, ht⟩ := haround
      rcases List.mem_cons.1 hmem with rfl | hmem
      · exact absurd ht hone
      · rw [hop, ih ⟨t, hmem, ht⟩]
        rfl

/-! ## Bodies -/

/-- The operations of a body, as often as it repeats them. Those of a block are laid out in one
list. -/
def layOut (ctx : Context) (body : String) (ops : List Operation) : Except Stop Expansion :=
  if Halt.isCopyCount (ctx.timesOf body) = false then .error (.halted .tooManyCopies)
  else if isBlock body = true ∧
      Halt.canLayOut (ops.length * (ctx.timesOf body).toNat) = false then
    .error (.halted .tooManyOperations)
  else .ok ⟨copies (ctx.timesOf body).toNat ops, ctx.blockRemarks body ++ Operation.remarks ops⟩

theorem layOut_of_block {inner times : List Char}
    (hform : form (trim body.toList) = .block inner times) (ops : List Operation) :
    ctx.layOut body ops =
      if Halt.isCopyCount (ctx.allowed times) = false then .error (.halted .tooManyCopies)
      else if Halt.canLayOut (ops.length * (ctx.allowed times).toNat) = false then
        .error (.halted .tooManyOperations)
      else .ok ⟨copies (ctx.allowed times).toNat ops,
        ctx.clampRemarks times ++ Operation.remarks ops⟩ := by
  unfold layOut isBlock timesOf blockRemarks
  rw [hform]
  simp only [true_and]

theorem layOut_of_not_block (hblock : isBlock body = false) (ops : List Operation) :
    ctx.layOut body ops = .ok ⟨ops, Operation.remarks ops⟩ := by
  have hcount : Halt.isCopyCount 1 = true := by decide +kernel
  obtain ⟨-, htimes, hremarks⟩ := ctx.whole_of_not_block hblock
  rw [layOut, htimes, hremarks]
  simp [hblock, hcount, copies_one]

/-- A body of any form is expanded in the same way: its tokens are read, the cells of all copies
are checked, and the copies are laid out. -/
theorem expand_eq_layOut (hrepeats : 1 ≤ ctx.limits.repeats) (hstitches : 1 ≤ ctx.limits.stitches)
    (hlen : ∀ inner times, form (trim body.toList) = .block inner times →
      times.length ≤ Halt.digitLimit) :
    ctx.expand live body = (ctx.operations live (tokenText body)).bind fun ops =>
      (ctx.checkStitches (Operation.totalUnits ops * ctx.timesOf body)).bind fun _ =>
        ctx.layOut body ops := by
  cases hform : form (trim body.toList) with
  | around =>
    have hnone : isBlock body = false := by
      unfold isBlock
      rw [hform]
    obtain ⟨htext, htimes, -⟩ := ctx.whole_of_not_block hnone
    rw [htext, htimes]
    simp only [layOut_of_not_block hnone, Int.mul_one]
    exact ctx.expand_of_isAround live hstitches (isAround_of_form hform)
  | block inner times =>
    have htext : tokenText body = inner := by
      unfold tokenText
      rw [hform]
    have htimes : ctx.timesOf body = ctx.allowed times := by
      unfold timesOf
      rw [hform]
    rw [htext, htimes, ctx.expand_eq, hform]
    simp only [layOut_of_block hform]
    exact ctx.expandBlock_eq live hrepeats inner (hlen inner times hform)
  | plain text =>
    have hnone : isBlock body = false := by
      unfold isBlock
      rw [hform]
    obtain ⟨htext, htimes, -⟩ := ctx.whole_of_not_block hnone
    rw [htext, htimes]
    simp only [layOut_of_not_block hnone, Int.mul_one]
    rw [ctx.expand_eq, hform, eq_of_form_eq_plain hform, expandForm, ctx.expandPlain_trim]
    rfl

/-- The body knits around more live stitches than the limit, or its copies fill more cells. -/
def Exceeds (ctx : Context) (live : Int) (body : String) (ops : List Operation) : Prop :=
  (ctx.limits.stitches < live ∧ ∃ token ∈ Token.split (tokenText body), isAround token = true) ∨
    ctx.limits.stitches < Operation.totalUnits ops * ctx.timesOf body

/-- What becomes of a body whose tokens stand for operations. -/
structure HeldToLimit (ctx : Context) (live : Int) (body : String) (ops : List Operation) :
    Prop where
  /-- Too many stitches are refused, and the number that is named is over the limit. -/
  refused : ctx.Exceeds live body ops →
    ∃ units, ctx.limits.stitches < units ∧ ctx.expand live body = .error (ctx.refusal units)
  /-- Nothing else is rejected. -/
  rejected : ∀ why, ctx.expand live body = .error (.rejected why) → ctx.Exceeds live body ops
  within : ¬ ctx.Exceeds live body ops →
    (Operation.totalUnits (copies (ctx.timesOf body).toNat ops) : Int) ≤ ctx.limits.stitches
  /-- All else has the operations of all copies. -/
  laidOut : ¬ ctx.Exceeds live body ops → ctx.expand live body = ctx.layOut body ops

section Limits

variable (hrepeats : 1 ≤ ctx.limits.repeats) (hstitches : 1 ≤ ctx.limits.stitches)
  (hruns : ∀ ds, DigitRun ds body.toList → ds.length ≤ Halt.digitLimit)
include hruns

/-- The numeral of a block is a run of digits of its body. -/
theorem length_times_le {inner times : List Char}
    (hform : form (trim body.toList) = .block inner times) : times.length ≤ Halt.digitLimit :=
  hruns times (infix_of_form_eq_block hform).2

theorem length_le_of_mem_split {token : List Char} (htoken : token ∈ Token.split (tokenText body))
    {ds : List Char} (hds : DigitRun ds token) : ds.length ≤ Halt.digitLimit := by
  have htext : tokenText body <:+: body.toList := by
    unfold tokenText
    cases hform : form (trim body.toList) with
    | around | plain _ => exact List.infix_rfl
    | block inner times => exact (infix_of_form_eq_block hform).1
  exact hruns ds (hds.of_isInfix ((Token.infix_of_mem_split htoken).trans htext))

include hrepeats hstitches

theorem refused_of_exceeds (hops : ctx.StandFor live (Token.split (tokenText body)) ops)
    (h : ctx.Exceeds live body ops) :
    ∃ units, ctx.limits.stitches < units ∧
      ctx.expand live body = .error (ctx.refusal units) := by
  rw [expand_eq_layOut hrepeats hstitches fun _ _ => length_times_le hruns]
  by_cases haround : ctx.limits.stitches < live ∧
      ∃ token ∈ Token.split (tokenText body), isAround token = true
  · rw [operations_of_around hops haround.1 haround.2]
    exact ⟨live, haround.1, rfl⟩
  · have hunits := h.resolve_left haround
    rw [operations_of_standFor hops fun hlive token hmem htoken =>
      haround ⟨hlive, token, hmem, htoken⟩]
    refine ⟨_, hunits, ?_⟩
    show (ctx.checkStitches _).bind _ = _
    rw [checkStitches_of_lt hunits]
    rfl

theorem expand_eq_of_not_exceeds
    (hops : ctx.StandFor live (Token.split (tokenText body)) ops)
    (h : ¬ ctx.Exceeds live body ops) : ctx.expand live body = ctx.layOut body ops := by
  rw [Exceeds, not_or, Int.not_lt] at h
  rw [expand_eq_layOut hrepeats hstitches fun _ _ => length_times_le hruns,
    operations_of_standFor hops fun hlive token hmem htoken => h.1 ⟨hlive, token, hmem, htoken⟩]
  show (ctx.checkStitches _).bind _ = _
  rw [ctx.checkStitches_of_le h.2]
  rfl

/-- The limit on stitches is kept exactly. The tokens of a body stand for operations; if it knits
around too many live stitches or its copies fill too many cells, it is refused with a number over
the limit, and otherwise it has just these copies, which are within the limit, unless they cannot
be counted or laid out. -/
theorem expand_held_to_limit :
    ∃ ops, ctx.StandFor live (Token.split (tokenText body)) ops ∧
      ctx.HeldToLimit live body ops := by
  have htokens : ∀ token ∈ Token.split (tokenText body), ∀ ds, DigitRun ds token →
      ds.length ≤ Halt.digitLimit := fun _ hmem _ => length_le_of_mem_split hruns hmem
  obtain ⟨ops, hops⟩ := exists_standFor hstitches live htokens
  have hlaid := expand_eq_of_not_exceeds hrepeats hstitches hruns hops
  refine ⟨ops, hops, refused_of_exceeds hrepeats hstitches hruns hops, ?_, ?_, hlaid⟩
  · intro why hwhy
    by_contra hnot
    rw [hlaid hnot, layOut] at hwhy
    split at hwhy
    · cases hwhy
    · split at hwhy <;> cases hwhy
  · intro hnot
    rw [Exceeds, not_or, Int.not_lt] at hnot
    rw [Operation.totalUnits_copies, Int.natCast_mul,
      Int.toNat_of_nonneg (timesOf_nonneg hrepeats body)]
    exact hnot.2

end Limits

/-- A block that is clamped to three copies, with no live stitch to knit around, fills as many cells
as it may; a block of no copies is refused for the stitches it would knit around. -/
theorem expand_held_to_limit_just :
    let ctx : Context := { limits := ⟨3, 9⟩ }
    (∃ ops e, ctx.StandFor 0 (Token.split (tokenText "*k around; k2 rep from * 5 times")) ops ∧
      ¬ ctx.Exceeds 0 "*k around; k2 rep from * 5 times" ops ∧
      ctx.expand 0 "*k around; k2 rep from * 5 times" = .ok e ∧
      e.operations.map Operation.units = [1, 2, 1, 2, 1, 2]) ∧
    ∃ ops, ctx.StandFor 10 (Token.split (tokenText "*k around rep from * 0 times")) ops ∧
      ctx.timesOf "*k around rep from * 0 times" = 0 ∧
      ctx.Exceeds 10 "*k around rep from * 0 times" ops ∧
      ctx.expand 10 "*k around rep from * 0 times" = .error (.rejected (.overLimit 10 9)) := by
  intro ctx
  constructor
  · have hread : (ctx.expand 0 "*k around; k2 rep from * 5 times").toOption.map
        (fun e => e.operations.map Operation.units) = some [1, 2, 1, 2, 1, 2] := by
      decide +kernel
    obtain ⟨ops, hops, hheld⟩ := @expand_held_to_limit ctx 0
      "*k around; k2 rep from * 5 times" (by decide) (by decide)
      fun ds hds => Nat.le_trans hds.length_le (by decide)
    obtain ⟨e, h, hunits⟩ := exists_eq_ok_of_toOption hread
    refine ⟨ops, e, hops, fun hover => ?_, h, hunits⟩
    obtain ⟨units, -, hrefused⟩ := hheld.refused hover
    cases h.symm.trans hrefused
  · have hread : (match ctx.expand 10 "*k around rep from * 0 times" with
        | .error stop => some stop
        | .ok _ => none) = some (.rejected (.overLimit 10 9)) := by decide +kernel
    obtain ⟨ops, hops, hheld⟩ := @expand_held_to_limit ctx 10
      "*k around rep from * 0 times" (by decide) (by decide)
      fun ds hds => Nat.le_trans hds.length_le (by decide)
    split at hread
    · next stop hstop =>
      rw [Option.some.inj hread] at hstop
      exact ⟨ops, hops, by decide +kernel, hheld.rejected _ hstop, hstop⟩
    · cases hread

/-- A block of nothing does not exceed the limit, and halts if its copies cannot be counted. -/
theorem halts_though_not_exceeding :
    let ctx : Context := { limits := ⟨9223372036854775808, 10000⟩ }
    let body := "*;* rep from * 9223372036854775808 times"
    (∀ ds, DigitRun ds body.toList → ds.length ≤ Halt.digitLimit) ∧
      Token.split (tokenText body) = [] ∧ ctx.timesOf body = 9223372036854775808 ∧
      ¬ ctx.Exceeds 1 body [] ∧ ctx.expand 1 body = .error (.halted .tooManyCopies) := by
  intro ctx body
  refine ⟨fun ds hds => Nat.le_trans hds.length_le (by decide), by decide +kernel,
    by decide +kernel, ?_, ?_⟩
  · rintro (⟨hover, -⟩ | hover)
    · exact absurd hover (by decide)
    · -- no operations fill no cells, however often they are repeated
      have hzero : (Operation.totalUnits [] : Int) * ctx.timesOf body = 0 := Int.zero_mul _
      rw [hzero] at hover
      exact absurd hover (by decide)
  · have hread : (match ctx.expand 1 "*;* rep from * 9223372036854775808 times" with
        | .error stop => some stop
        | .ok _ => none) = some (.halted .tooManyCopies) := by decide +kernel
    split at hread
    · next stop hstop => rw [← Option.some.inj hread, ← hstop]
    · cases hread

end Context

end KnitPattern
