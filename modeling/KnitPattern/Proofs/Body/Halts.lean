/-
  What halts the work on an instruction text. A halt is `Due` if the text and the limits give rise
  to it: a numeral is too long, or the text asks for more copies than can be counted or for a block
  of more operations than one list holds (`Overfull`), and the limits let them through. The text of
  every numeral is a run of digits of the instruction text, and a text within the limit on stitches
  has no more operations than stitches, so no other halt is met (`due_of_expand`).
-/
import KnitPattern.Proofs.Body.Size
import KnitPattern.Proofs.Stitch.Count

namespace KnitPattern

open Text Body

/-- The body is a repeat block whose tokens, copied as often as its numeral and the limit allow,
are too many for one list. -/
def Body.Overfull (limits : Limits) (body : String) : Prop :=
  ∃ inner times, form (trim body.toList) = .block inner times ∧
    Nat.pow 2 60 ≤ (Token.split inner).length * min (Numeral.value times : Int) limits.repeats

/-- What a halt says of the text that is read, of the bodies that it asks for, of the limits, and of
the numbers of stitches that are counted, of which none is over `most`. -/
inductive Halt.Due (text : List Char) (asks : String → Prop) (limits : Limits) (most : Int) :
    Halt → Prop
  /-- A numeral of the text is too long. -/
  | numeral {why : Halt} (h : Numeral.TooLongIn text why) : Due text asks limits most why
  /-- A number of stitches has too many digits. -/
  | writing (hmost : Nat.pow 10 Halt.digitLimit ≤ most) :
      Due text asks limits most .numberTooLong
  /-- The text asks for copies that cannot be counted, and the limit lets them through. -/
  | copies {times : List Char} (htimes : DigitRun times text)
      (hvalue : Nat.pow 2 63 ≤ Numeral.value times) (hlimit : Nat.pow 2 63 ≤ limits.repeats) :
      Due text asks limits most .tooManyCopies
  /-- The text asks for a block of operations that no list holds, and the limit lets them
  through. -/
  | operations {body : String} (hbody : asks body) (hfull : Body.Overfull limits body)
      (hlimit : Nat.pow 2 60 ≤ limits.stitches) : Due text asks limits most .tooManyOperations

theorem Halt.Due.of_within {s t : List Char} {asks : String → Prop} {limits : Limits} {most : Int}
    {why : Halt} (hst : DigitsWithin s t) (h : why.Due s asks limits most) :
    why.Due t asks limits most := by
  cases h with
  | numeral h => exact .numeral (h.of_within hst)
  | writing hmost => exact .writing hmost
  | copies htimes hvalue hlimit => exact .copies (hst _ htimes) hvalue hlimit
  | operations hbody hfull hlimit => exact .operations hbody hfull hlimit

namespace Body

theorem eq_of_form_eq_plain {s text : List Char} (h : form s = .plain text) : text = s := by
  unfold form at h
  split at h
  · cases h
  · split at h
    · cases h
    · exact (Form.plain.inj h).symm

/-- The inner text of a block stands in its body, and its numeral is a run of digits there. -/
theorem infix_of_form_eq_block {body : String} {inner times : List Char}
    (h : form (trim body.toList) = .block inner times) :
    inner <:+: body.toList ∧ DigitRun times body.toList := by
  have htrim := infix_trim body.toList
  obtain ⟨sp, hsp, -, -, -, hdigits⟩ := Spelling.exists_spelling h
  rw [hsp] at htrim
  exact ⟨(sp.inner_infix_text inner times).trans htrim, hdigits,
    (sp.times_infix_text inner times).trans htrim⟩

/-- A block that is too large for one list is in a long text, or its copies are many. -/
theorem Overfull.le_length {limits : Limits} {body : String} (hrepeats : 1 ≤ limits.repeats)
    (h : Overfull limits body) :
    Nat.pow 2 60 ≤ ((body.toList.length : Int) + 1) * limits.repeats := by
  obtain ⟨inner, times, hform, hmany⟩ := h
  obtain ⟨hinner, -⟩ := infix_of_form_eq_block hform
  have htokens := Token.length_split_le inner
  have hlength := hinner.length_le
  calc ((Nat.pow 2 60 : Nat) : Int)
      ≤ (Token.split inner).length * min (Numeral.value times : Int) limits.repeats := hmany
    _ ≤ (Token.split inner).length * limits.repeats :=
        Int.mul_le_mul_of_nonneg_left (Int.min_le_right _ _) (Int.natCast_nonneg _)
    _ ≤ (body.toList.length + 1) * limits.repeats :=
        Int.mul_le_mul_of_nonneg_right (by omega) (by omega)

end Body

namespace Context

variable {ctx : Context} {live most : Int} {text : List Char} {asks : String → Prop} {why : Halt}

/-! ## One operation -/

theorem due_of_checkStitches (hstitches : 1 ≤ ctx.limits.stitches) {units : Int}
    (hunits : units ≤ most) (h : ctx.checkStitches units = .error (.halted why)) :
    why.Due text asks ctx.limits most := by
  unfold checkStitches at h
  split at h
  · next hover =>
    split at h
    · cases h
    · next hwritable =>
      cases h
      refine .writing (Int.not_lt.1 fun hlt => hwritable ?_)
      rw [Bool.and_eq_true]
      exact ⟨Halt.isWritable_of_lt (by omega) (by omega),
        Halt.isWritable_of_lt (by omega) (by omega)⟩
  · cases h

theorem due_of_around (hstitches : 1 ≤ ctx.limits.stitches) (hlive : live ≤ most)
    (h : ctx.around live = .error (.halted why)) : why.Due text asks ctx.limits most := by
  rcases bind_eq_error_iff.1 h with h | ⟨_, -, h⟩
  · exact due_of_checkStitches hstitches hlive h
  · cases h

theorem due_of_operation (hstitches : 1 ≤ ctx.limits.stitches) (hlive : live ≤ most)
    {token : List Char} (htoken : token <:+: text)
    (h : ctx.operation live token = .error (.halted why)) : why.Due text asks ctx.limits most := by
  unfold operation at h
  split at h
  · exact due_of_around hstitches hlive h
  · have hlong := tooLongIn_of_classify (Halt.neg_lt_of_pos hstitches) (eq_error_of_liftM h)
    rw [String.toList_ofList] at hlong
    exact .numeral (hlong.of_within (.of_isInfix htoken))

theorem due_of_operations (hstitches : 1 ≤ ctx.limits.stitches) (hlive : live ≤ most)
    {inner : List Char} (hinner : inner <:+: text)
    (h : ctx.operations live inner = .error (.halted why)) : why.Due text asks ctx.limits most := by
  obtain ⟨token, htoken, h⟩ := exists_of_mapM_eq_error h
  exact due_of_operation hstitches hlive ((Token.infix_of_mem_split htoken).trans hinner) h

/-! ## Texts -/

/-- Copies that cannot be counted are let through only by a limit on repeats that is as high. -/
theorem due_of_not_isCopyCount (hrepeats : 1 ≤ ctx.limits.repeats) {times : List Char}
    (htimes : DigitRun times text) (h : Halt.isCopyCount (ctx.allowed times) = false) :
    Halt.Due text asks ctx.limits most .tooManyCopies := by
  have hlow : -(Nat.pow 2 63 : Int) ≤ ctx.allowed times := by
    have hpow : (0 : Int) ≤ Nat.pow 2 63 := Int.natCast_nonneg _
    have hallowed := allowed_nonneg hrepeats times
    omega
  have hhigh : (Nat.pow 2 63 : Int) ≤ ctx.allowed times := by
    rcases Bool.and_eq_false_iff.1 h with h | h
    · exact absurd hlow (of_decide_eq_false h)
    · exact Int.not_lt.1 (of_decide_eq_false h)
  unfold allowed at hhigh
  exact .copies htimes (by omega) (by omega)

/-- Operations that no list holds are let through only by a limit on stitches that is as high, since
each of them fills a cell. -/
theorem due_of_not_canLayOut {body : String} {inner times : List Char} {ops : List Operation}
    (hbody : asks body) (hform : form (trim body.toList) = .block inner times)
    (hops : ctx.operations live inner = .ok ops) (hallowed : 0 ≤ ctx.allowed times)
    (hcheck : ctx.checkStitches (Operation.totalUnits ops * ctx.allowed times) = .ok ())
    (h : Halt.canLayOut (ops.length * (ctx.allowed times).toNat) = false) :
    Halt.Due text asks ctx.limits most .tooManyOperations := by
  have hroom : Nat.pow 2 60 ≤ ops.length * (ctx.allowed times).toNat :=
    Nat.le_of_not_lt (of_decide_eq_false h)
  have hmany : Nat.pow 2 60 ≤ ops.length * ctx.allowed times := by
    calc ((Nat.pow 2 60 : Nat) : Int) ≤ (ops.length * (ctx.allowed times).toNat : Nat) :=
          Int.ofNat_le.2 hroom
      _ = ops.length * ctx.allowed times := by
          rw [Int.natCast_mul, Int.toNat_of_nonneg hallowed]
  have hunits : ops.length * ctx.allowed times ≤ Operation.totalUnits ops * ctx.allowed times :=
    Int.mul_le_mul_of_nonneg_right (Int.ofNat_le.2 (Operation.length_le_totalUnits ops)) hallowed
  refine .operations hbody ⟨inner, times, hform, ?_⟩ ?_
  · rw [(mapM_eq_ok_iff.1 hops).length_eq]
    exact hmany
  · exact Int.le_trans hmany (Int.le_trans hunits (ctx.checkStitches_eq_ok_iff.1 hcheck))

section Texts

variable (hrepeats : 1 ≤ ctx.limits.repeats) (hstitches : 1 ≤ ctx.limits.stitches)
  (hlive : live ≤ most)
include hrepeats hstitches hlive

theorem due_of_expandPlain
    (hmost : (text.length + 1) * (ctx.limits.stitches * ctx.limits.repeats) ≤ most)
    (h : ctx.expandPlain live text = .error (.halted why)) :
    why.Due text asks ctx.limits most := by
  rcases bind_eq_error_iff.1 h with h | ⟨ops, hops, h⟩
  · exact due_of_operations hstitches hlive List.infix_rfl h
  rcases bind_eq_error_iff.1 h with h | ⟨_, -, h⟩
  · have hunits := totalUnits_mul_le hstitches hops (Nat.le_refl _) (by omega) hrepeats
    rw [Int.mul_one] at hunits
    exact due_of_checkStitches hstitches (Int.le_trans hunits hmost) h
  · cases h

variable {body : String} (hbody : asks body)
  (hmost : (body.toList.length + 1) * (ctx.limits.stitches * ctx.limits.repeats) ≤ most)
include hbody hmost

theorem due_of_expandBlock {inner times : List Char}
    (hform : form (trim body.toList) = .block inner times)
    (h : ctx.expandBlock live inner times = .error (.halted why)) :
    why.Due body.toList asks ctx.limits most := by
  have hallowed := allowed_nonneg hrepeats times
  obtain ⟨hinner, htimes⟩ := infix_of_form_eq_block hform
  by_cases hlen : times.length ≤ Halt.digitLimit
  · rw [ctx.expandBlock_eq live hrepeats inner hlen] at h
    rcases bind_eq_error_iff.1 h with h | ⟨ops, hops, h⟩
    · exact due_of_operations hstitches hlive hinner h
    rcases bind_eq_error_iff.1 h with h | ⟨_, hcheck, h⟩
    · have hunits := totalUnits_mul_le hstitches hops hinner.length_le hallowed
        (Int.min_le_right _ _)
      exact due_of_checkStitches hstitches (Int.le_trans hunits hmost) h
    split at h
    · next hcount =>
      cases h
      exact due_of_not_isCopyCount hrepeats htimes hcount
    split at h
    · next hroom =>
      cases h
      exact due_of_not_canLayOut hbody hform hops hallowed hcheck hroom
    · cases h
  · rcases bind_eq_error_iff.1 h with h | ⟨ops, -, h⟩
    · exact due_of_operations hstitches hlive hinner h
    rcases bind_eq_error_iff.1 h with h | ⟨n, hread, -⟩
    · exact .numeral (Numeral.tooLongIn_of_read htimes (eq_error_of_liftM h))
    · rw [Numeral.read, if_neg hlen] at hread
      cases hread

/-- A body that is asked for is halted only where that is due. -/
theorem due_of_expand (h : ctx.expand live body = .error (.halted why)) :
    why.Due body.toList asks ctx.limits most := by
  rw [ctx.expand_eq] at h
  cases hform : form (trim body.toList) with
  | around =>
    rw [hform] at h
    rcases bind_eq_error_iff.1 h with h | ⟨_, -, h⟩
    · exact due_of_around hstitches hlive h
    · cases h
  | block inner times =>
    rw [hform] at h
    exact due_of_expandBlock hrepeats hstitches hlive hbody hmost hform h
  | plain text =>
    rw [hform] at h
    rw [eq_of_form_eq_plain hform, expandForm, ctx.expandPlain_trim] at h
    exact due_of_expandPlain hrepeats hstitches hlive hmost h

end Texts

end Context

end KnitPattern
