/-
  A repeat block and its copies written out. However a block is spelled, it has the
  operations of the plain text in which its inner text stands as often as the block is
  repeated, with commas between (`MeansCopies`): both fail at the same place, and the limit
  on stitches sees the same number. The exceptions are blocks that are halted because their
  copies cannot be counted or their operations cannot be laid out. The instruction to knit
  around, taken as a whole text, is read as the token it is (`expand_of_isAround`).
-/
import KnitPattern.Body.Expansion
import KnitPattern.Proofs.Body.Spelling
import KnitPattern.Proofs.Halting
import KnitPattern.Proofs.Numeral

namespace KnitPattern

open Text Body

/-! ## The limit on stitches -/

namespace Context

variable (ctx : Context) (live : Int)

theorem checkStitches_of_le {units : Int} (h : units ≤ ctx.limits.stitches) :
    ctx.checkStitches units = .ok () := by
  rw [checkStitches, if_neg (by omega)]

theorem checkStitches_eq_ok_iff {units : Int} :
    ctx.checkStitches units = .ok () ↔ units ≤ ctx.limits.stitches := by
  refine ⟨fun h => ?_, ctx.checkStitches_of_le⟩
  by_contra hgt
  rw [checkStitches, if_pos (by omega)] at h
  split at h
  · cases h
  · cases h

/-! ## Plain texts -/

/-- The operations of a text of a given form. -/
def expandForm : Form → Except Stop Expansion
  | .around => do return ⟨[← ctx.around live], []⟩
  | .block inner times => ctx.expandBlock live inner times
  | .plain text => ctx.expandPlain live text

theorem expand_eq (body : String) :
    ctx.expand live body = ctx.expandForm live (form (trim body.toList)) :=
  rfl

theorem expandPlain_trim (text : List Char) :
    ctx.expandPlain live (trim text) = ctx.expandPlain live text := by
  unfold expandPlain operations
  rw [Token.split_trim]

/-- To knit around is read as the token it is. -/
theorem expand_of_isAround (hstitches : 1 ≤ ctx.limits.stitches) {body : String}
    (h : isAround (trim body.toList) = true) :
    ctx.expand live body = ctx.expandPlain live body.toList := by
  obtain ⟨k, gap, w, stop, hs⟩ := exists_aroundText h
  have hform : form (trim body.toList) = .around := by
    rw [form, h]
    rfl
  have hops : ctx.operations live (aroundText k gap w stop) = (ctx.around live).map ([·]) := by
    have hop : ctx.operation live (aroundText k gap w false) = ctx.around live := by
      rw [operation, if_pos (isAround_aroundText k gap w false)]
    rw [operations, split_aroundText, List.mapM_cons, hop]
    cases ctx.around live <;> rfl
  rw [← ctx.expandPlain_trim live body.toList, ctx.expand_eq, hform, hs, expandForm,
    expandPlain, hops, around]
  cases hcheck : ctx.checkStitches live with
  | error why => rfl
  | ok u =>
    have hle := ctx.checkStitches_eq_ok_iff.1 hcheck
    have hunits : ctx.checkStitches (Operation.totalUnits [ctx.aroundOperation live]) = .ok () := by
      refine ctx.checkStitches_of_le ?_
      show (((max 1 live).toNat + 0 : Nat) : Int) ≤ ctx.limits.stitches
      omega
    show _ = (ctx.checkStitches (Operation.totalUnits [ctx.aroundOperation live])).bind _
    rw [hunits]
    rfl

theorem expand_of_star_not_mem (hstitches : 1 ≤ ctx.limits.stitches) {body : String}
    (hstar : '*' ∉ body.toList) : ctx.expand live body = ctx.expandPlain live body.toList := by
  cases haround : isAround (trim body.toList) with
  | true => exact ctx.expand_of_isAround live hstitches haround
  | false =>
    have htrim : '*' ∉ trim body.toList := by
      obtain ⟨g, g', -, -, hs⟩ := exists_strip isBlank body.toList
      intro h
      rw [hs] at hstar
      exact hstar (List.mem_append_left _ (List.mem_append_right _ h))
    have hform : form (trim body.toList) = .plain (trim body.toList) := by
      have hone : blockOfPieces? [trim body.toList] = none := by
        cases trim body.toList <;> rfl
      rw [form, haround, List.splitOn_eq_singleton htrim, hone]
      rfl
    rw [ctx.expand_eq, hform]
    exact ctx.expandPlain_trim live body.toList

end Context

/-! ## Copies -/

theorem copies_eq {α : Type} (n : Nat) (as : List α) :
    copies n as = (List.replicate n as).flatten := by
  cases as with
  | nil => simp [copies]
  | cons a as => rfl

theorem copies_one {α : Type} (as : List α) : copies 1 as = as := by
  rw [copies_eq]
  exact List.append_nil as

theorem Operation.totalUnits_copies (n : Nat) (ops : List Operation) :
    totalUnits (copies n ops) = totalUnits ops * n := by
  rw [copies_eq]
  induction n with
  | zero => rfl
  | succ n ih =>
    have hsum : totalUnits (ops ++ (List.replicate n ops).flatten) =
        totalUnits ops + totalUnits (List.replicate n ops).flatten := by
      show ((ops ++ _).map units).sum = _
      rw [List.map_append, List.sum_append]
      rfl
    rw [List.replicate_succ, List.flatten_cons, hsum, ih, Nat.mul_succ, Nat.add_comm]

theorem length_copies {α : Type} (n : Nat) (as : List α) :
    (copies n as).length = as.length * n := by
  rw [copies_eq, List.length_flatten, List.map_replicate, List.sum_replicate_nat, Nat.mul_comm]

/-- A text written out so many times, with commas between. -/
def Body.unrolled (n : Nat) (inner : List Char) : String :=
  String.ofList ([','].intercalate (List.replicate n inner))

theorem Body.star_not_mem_unrolled {inner : List Char} (hstar : '*' ∉ inner) (n : Nat) :
    '*' ∉ (unrolled n inner).toList := by
  rw [unrolled, String.toList_ofList]
  induction n with
  | zero => exact List.not_mem_nil
  | succ n ih =>
    cases n with
    | zero => simpa using hstar
    | succ n =>
      rw [List.replicate_succ, List.replicate_succ, List.intercalate_cons_cons,
        ← List.replicate_succ]
      simp only [List.mem_append, not_or]
      exact ⟨⟨hstar, by decide⟩, ih⟩

namespace Context

variable (ctx : Context) (live : Int)

theorem operations_unrolled {n : Nat} (hn : 0 < n) (inner : List Char) :
    ctx.operations live (unrolled n inner).toList =
      (ctx.operations live inner).map (copies n) := by
  rw [operations, unrolled, String.toList_ofList, Token.split_joined,
    mapM_flatten_replicate _ _ hn, operations]
  cases (Token.split inner).mapM (ctx.operation live) with
  | error why => rfl
  | ok ops => exact congrArg Except.ok (copies_eq n ops).symm

theorem expand_text (sp : Spelling) {inner times : List Char} (hinner : inner ≠ [])
    (hstar : '*' ∉ inner) (htimes : times ≠ []) (hdigits : ∀ c ∈ times, isDigit c = true) :
    ctx.expand live (String.ofList (sp.text inner times)) =
      ctx.expandBlock live inner times := by
  have hform : form (trim (String.ofList (sp.text inner times)).toList) =
      .block (sp.captured inner) times := by
    rw [String.toList_ofList, sp.trim_text, sp.form_text hinner hstar htimes hdigits]
  rw [ctx.expand_eq, hform, expandForm]
  unfold expandBlock operations
  rw [sp.split_captured]

/-- How often a block is repeated: as often as its numeral says, but not over the limit. -/
def allowed (times : List Char) : Int :=
  min (Numeral.value times : Int) ctx.limits.repeats

/-- What is remarked about a block as a whole. -/
def clampRemarks (times : List Char) : List Remark :=
  if (Numeral.value times : Int) > ctx.limits.repeats then
    [.clamped (Numeral.value times) ctx.limits.repeats]
  else []

/-- A block means its inner text written out as often as it is repeated, unless its copies cannot
be counted or its operations are too many for one list. -/
structure MeansCopies (block : String) (inner times : List Char) : Prop where
  /-- The block fails as the text written out does. -/
  fails : ∀ why, ctx.expand live (unrolled (ctx.allowed times).toNat inner) = .error why →
    ctx.expand live block = .error why
  uncounted : ∀ flat, ctx.expand live (unrolled (ctx.allowed times).toNat inner) = .ok flat →
    Halt.isCopyCount (ctx.allowed times) = false →
      ctx.expand live block = .error (.halted .tooManyCopies)
  noRoom : ∀ flat, ctx.expand live (unrolled (ctx.allowed times).toNat inner) = .ok flat →
    Halt.isCopyCount (ctx.allowed times) = true →
      Halt.canLayOut flat.operations.length = false →
        ctx.expand live block = .error (.halted .tooManyOperations)
  /-- The block has the operations of the text written out, and the remarks on one copy after
  those on the block itself. -/
  expands : ∀ flat, ctx.expand live (unrolled (ctx.allowed times).toNat inner) = .ok flat →
    Halt.isCopyCount (ctx.allowed times) = true →
      Halt.canLayOut flat.operations.length = true →
        ∃ one, ctx.expand live (String.ofList inner) = .ok one ∧
          ctx.expand live block = .ok ⟨flat.operations, ctx.clampRemarks times ++ one.remarks⟩

/-- A text that was read fails, or has its operations within the limit. -/
theorem expandPlain_eq (text : List Char) :
    ctx.expandPlain live text = (ctx.operations live text).bind fun ops =>
      (ctx.checkStitches (Operation.totalUnits ops)).bind fun _ =>
        .ok ⟨ops, Operation.remarks ops⟩ :=
  rfl

theorem expandBlock_eq_bind (inner : List Char) {times : List Char}
    (hlen : times.length ≤ Halt.digitLimit) :
    ctx.expandBlock live inner times = (ctx.operations live inner).bind fun ops =>
      (ctx.clamp (Numeral.value times)).bind fun clamped =>
        (ctx.checkStitches (Operation.totalUnits ops * ctx.allowed times)).bind fun _ =>
          if Halt.isCopyCount (ctx.allowed times) = false then .error (.halted .tooManyCopies)
          else if Halt.canLayOut (ops.length * (ctx.allowed times).toNat) = false then
            .error (.halted .tooManyOperations)
          else .ok ⟨copies (ctx.allowed times).toNat ops, clamped ++ Operation.remarks ops⟩ := by
  unfold expandBlock allowed
  rw [Numeral.read, if_pos hlen]
  cases ctx.operations live inner with
  | error why => rfl
  | ok ops =>
    show (ctx.clamp (Numeral.value times)).bind _ = (ctx.clamp (Numeral.value times)).bind _
    cases ctx.clamp (Numeral.value times) with
    | error why => rfl
    | ok clamped =>
      show (ctx.checkStitches (Operation.totalUnits ops * min _ _)).bind _ =
        (ctx.checkStitches (Operation.totalUnits ops * min _ _)).bind _
      cases ctx.checkStitches (Operation.totalUnits ops * min (Numeral.value times : Int) _) with
      | error why => rfl
      | ok u =>
        generalize min (Numeral.value times : Int) ctx.limits.repeats = n
        cases hcopies : Halt.isCopyCount n with
        | false => rfl
        | true => cases Halt.canLayOut (ops.length * n.toNat) <;> rfl

/-- A limit on repeats of at least one can be written where it is named. -/
theorem clamp_eq (hrepeats : 1 ≤ ctx.limits.repeats) {times : List Char}
    (hlen : times.length ≤ Halt.digitLimit) :
    ctx.clamp (Numeral.value times) = .ok (ctx.clampRemarks times) := by
  unfold clamp clampRemarks
  split
  · next hover =>
    have hread : Numeral.read times = .ok (Numeral.value times) := if_pos hlen
    have hvalue : Numeral.value times < Nat.pow 10 Halt.digitLimit := by
      rw [Halt.pow_digitLimit]
      exact Numeral.lt_of_read hread
    have hhigh := Int.lt_trans hover (Int.ofNat_lt.2 hvalue)
    rw [if_pos (Halt.isWritable_of_lt (Halt.neg_lt_of_pos hrepeats) hhigh)]
  · rfl

theorem expandBlock_eq (hrepeats : 1 ≤ ctx.limits.repeats) (inner : List Char)
    {times : List Char} (hlen : times.length ≤ Halt.digitLimit) :
    ctx.expandBlock live inner times = (ctx.operations live inner).bind fun ops =>
      (ctx.checkStitches (Operation.totalUnits ops * ctx.allowed times)).bind fun _ =>
        if Halt.isCopyCount (ctx.allowed times) = false then .error (.halted .tooManyCopies)
        else if Halt.canLayOut (ops.length * (ctx.allowed times).toNat) = false then
          .error (.halted .tooManyOperations)
        else .ok ⟨copies (ctx.allowed times).toNat ops,
          ctx.clampRemarks times ++ Operation.remarks ops⟩ := by
  rw [ctx.expandBlock_eq_bind live inner hlen, ctx.clamp_eq hrepeats hlen]
  rfl

/-! ### What an expansion is made of -/

variable {ctx live}

theorem around_eq_ok_iff {op : Operation} :
    ctx.around live = .ok op ↔ live ≤ ctx.limits.stitches ∧ op = ctx.aroundOperation live := by
  unfold around
  rw [bind_eq_ok_iff, ← ctx.checkStitches_eq_ok_iff]
  constructor
  · rintro ⟨_, hcheck, h⟩
    exact ⟨hcheck, (Except.ok.inj h).symm⟩
  · rintro ⟨hcheck, rfl⟩
    exact ⟨(), hcheck, rfl⟩

theorem expandPlain_eq_ok_iff {text : List Char} {e : Expansion} :
    ctx.expandPlain live text = .ok e ↔ ∃ ops, ctx.operations live text = .ok ops ∧
      Operation.totalUnits ops ≤ ctx.limits.stitches ∧ e = ⟨ops, Operation.remarks ops⟩ := by
  unfold expandPlain
  simp only [bind_eq_ok_iff, ← ctx.checkStitches_eq_ok_iff]
  constructor
  · rintro ⟨ops, hops, _, hcheck, h⟩
    exact ⟨ops, hops, hcheck, (Except.ok.inj h).symm⟩
  · rintro ⟨ops, hops, hcheck, rfl⟩
    exact ⟨ops, hops, (), hcheck, rfl⟩

theorem clamp_ne_rejected (asked : Nat) (why : Rejection) :
    ctx.clamp asked ≠ .error (.rejected why) := by
  unfold clamp
  split
  · split <;> simp
  · simp

theorem clamp_eq_ok_iff {times : List Char} {remarks : List Remark} :
    ctx.clamp (Numeral.value times) = .ok remarks ↔
      ctx.clamp (Numeral.value times) = .ok (ctx.clampRemarks times) ∧
        remarks = ctx.clampRemarks times := by
  refine ⟨fun h => ?_, fun ⟨h, hremarks⟩ => hremarks ▸ h⟩
  have hremarks : remarks = ctx.clampRemarks times := by
    unfold clamp at h
    unfold clampRemarks
    split at h
    · next hover =>
      rw [if_pos hover]
      split at h
      · exact (Except.ok.inj h).symm
      · cases h
    · next hle =>
      rw [if_neg hle]
      exact (Except.ok.inj h).symm
  exact ⟨hremarks ▸ h, hremarks⟩

theorem expandBlock_eq_ok_iff {inner times : List Char} {e : Expansion} :
    ctx.expandBlock live inner times = .ok e ↔ times.length ≤ Halt.digitLimit ∧
      ctx.clamp (Numeral.value times) = .ok (ctx.clampRemarks times) ∧
      ∃ ops, ctx.operations live inner = .ok ops ∧
        Operation.totalUnits ops * ctx.allowed times ≤ ctx.limits.stitches ∧
        Halt.isCopyCount (ctx.allowed times) = true ∧
        Halt.canLayOut (ops.length * (ctx.allowed times).toNat) = true ∧
        e = ⟨copies (ctx.allowed times).toNat ops,
          ctx.clampRemarks times ++ Operation.remarks ops⟩ := by
  by_cases hlen : times.length ≤ Halt.digitLimit
  · rw [ctx.expandBlock_eq_bind live inner hlen]
    simp only [hlen, true_and, ← ctx.checkStitches_eq_ok_iff]
    constructor
    · intro h
      obtain ⟨ops, hops, h⟩ := bind_eq_ok_iff.1 h
      obtain ⟨clamped, hclamp, h⟩ := bind_eq_ok_iff.1 h
      obtain ⟨_, hcheck, h⟩ := bind_eq_ok_iff.1 h
      obtain ⟨hclamp, rfl⟩ := clamp_eq_ok_iff.1 hclamp
      split at h
      · cases h
      split at h
      · cases h
      · next hcount hroom =>
        exact ⟨hclamp, ops, hops, hcheck, Bool.not_eq_false _ ▸ hcount,
          Bool.not_eq_false _ ▸ hroom, (Except.ok.inj h).symm⟩
    · rintro ⟨hclamp, ops, hops, hcheck, hcount, hroom, rfl⟩
      refine bind_eq_ok_iff.2 ⟨ops, hops, bind_eq_ok_iff.2 ⟨_, hclamp,
        bind_eq_ok_iff.2 ⟨(), hcheck, ?_⟩⟩⟩
      rw [if_neg (by simp [hcount]), if_neg (by simp [hroom])]
  · constructor
    · intro h
      obtain ⟨_, -, h⟩ := bind_eq_ok_iff.1 h
      obtain ⟨n, hread, -⟩ := bind_eq_ok_iff.1 h
      rw [Numeral.read, if_neg hlen] at hread
      cases hread
    · intro h
      exact absurd h.1 hlen

variable (ctx live)

/-! ## Blocks -/

theorem MeansCopies.of_error {block : String} {inner times : List Char} {why : Stop}
    (hblock : ctx.expand live block = .error why)
    (hflat : ctx.expand live (unrolled (ctx.allowed times).toNat inner) = .error why) :
    ctx.MeansCopies live block inner times where
  fails := fun _ h => hblock.trans (hflat.symm.trans h)
  uncounted := fun _ h => nomatch hflat.symm.trans h
  noRoom := fun _ h => nomatch hflat.symm.trans h
  expands := fun _ h => nomatch hflat.symm.trans h

/-- A repeat block means its copies in any spelling. -/
theorem meansCopies_text (hrepeats : 1 ≤ ctx.limits.repeats)
    (hstitches : 1 ≤ ctx.limits.stitches) (sp : Spelling) {inner times : List Char}
    (hinner : inner ≠ []) (hstar : '*' ∉ inner) (htimes : times ≠ [])
    (hdigits : ∀ c ∈ times, isDigit c = true) (hlen : times.length ≤ Halt.digitLimit)
    (hpos : 1 ≤ Numeral.value times) :
    ctx.MeansCopies live (String.ofList (sp.text inner times)) inner times := by
  have hallowed : 1 ≤ ctx.allowed times := by
    unfold allowed
    omega
  have hcast : ((ctx.allowed times).toNat : Int) = ctx.allowed times :=
    Int.toNat_of_nonneg (by omega)
  have hblock := ctx.expand_text live sp hinner hstar htimes hdigits
  rw [ctx.expandBlock_eq live hrepeats inner hlen] at hblock
  have hflat := ctx.expand_of_star_not_mem live hstitches
    (star_not_mem_unrolled hstar (ctx.allowed times).toNat)
  rw [expandPlain_eq, ctx.operations_unrolled live (by omega)] at hflat
  have hone : ctx.expand live (String.ofList inner) = _ :=
    ctx.expand_of_star_not_mem live hstitches (by rwa [String.toList_ofList])
  rw [String.toList_ofList, expandPlain_eq] at hone
  cases hops : ctx.operations live inner with
  | error why =>
    rw [hops] at hblock hflat
    exact .of_error ctx live hblock hflat
  | ok ops =>
    have hunits : ((Operation.totalUnits (copies (ctx.allowed times).toNat ops) : Nat) : Int) =
        Operation.totalUnits ops * ctx.allowed times := by
      rw [Operation.totalUnits_copies, Int.natCast_mul, hcast]
    rw [hops] at hblock hflat hone
    simp only [Except.map, Except.bind, hunits] at hblock hflat hone
    cases hcheck : ctx.checkStitches (Operation.totalUnits ops * ctx.allowed times) with
    | error why =>
      rw [hcheck] at hblock hflat
      exact .of_error ctx live hblock hflat
    | ok u =>
      -- one copy has no more stitches than all of them
      have hle : ((Operation.totalUnits ops : Nat) : Int) ≤ ctx.limits.stitches := by
        have hcopy := Int.mul_le_mul_of_nonneg_left hallowed
          (Int.natCast_nonneg (Operation.totalUnits ops))
        rw [Int.mul_one] at hcopy
        exact Int.le_trans hcopy (ctx.checkStitches_eq_ok_iff.1 hcheck)
      rw [hcheck] at hblock hflat
      rw [ctx.checkStitches_of_le hle] at hone
      dsimp only at hblock hflat hone
      rw [← length_copies] at hblock
      refine ⟨fun _ h => (nomatch hflat.symm.trans h), ?_, ?_, ?_⟩
      · intro flat h hcount
        rw [hblock, if_pos hcount]
      · intro flat h hcount hroom
        cases hflat.symm.trans h
        rw [hblock, if_neg (by rw [hcount]; decide), if_pos hroom]
      · intro flat h hcount hroom
        cases hflat.symm.trans h
        refine ⟨_, hone, ?_⟩
        rw [hblock, if_neg (by rw [hcount]; decide), if_neg (by rw [hroom]; decide)]

/-- A repeat block means its copies in any spelling, and no text but such a spelling is read as
a block; to knit around is read as the token it is. -/
theorem expand_block (hrepeats : 1 ≤ ctx.limits.repeats) (hstitches : 1 ≤ ctx.limits.stitches) :
    (∀ (sp : Spelling) (inner times : List Char), inner ≠ [] → '*' ∉ inner → times ≠ [] →
      (∀ c ∈ times, isDigit c = true) → times.length ≤ Halt.digitLimit →
      1 ≤ Numeral.value times →
      ctx.MeansCopies live (String.ofList (sp.text inner times)) inner times) ∧
    (∀ (body : String) (inner times : List Char),
      form (trim body.toList) = .block inner times →
      ∃ sp : Spelling, trim body.toList = sp.text inner times ∧ inner ≠ [] ∧ '*' ∉ inner ∧
        times ≠ [] ∧ ∀ c ∈ times, isDigit c = true) ∧
    ∀ body : String, isAround (trim body.toList) = true →
      ctx.expand live body = ctx.expandPlain live body.toList := by
  refine ⟨?_, ?_, ?_⟩
  · intro sp inner times hinner hstar htimes hdigits hlen hpos
    exact ctx.meansCopies_text live hrepeats hstitches sp hinner hstar htimes hdigits hlen hpos
  · intro body inner times h
    exact Spelling.exists_spelling h
  · intro body h
    exact ctx.expand_of_isAround live hstitches h

/-- Copies that cannot be counted halt a block even where there is nothing to copy. -/
theorem expand_block_uncountable :
    let ctx : Context := { limits := ⟨9223372036854775808, 1⟩ }
    ctx.expand 1 "*,* rep from * 9223372036854775808 times" = .error (.halted .tooManyCopies) ∧
      ctx.expand 1 (unrolled 9223372036854775808 [',']) = .ok ⟨[], []⟩ := by
  intro ctx
  constructor
  · have h : (match ctx.expand 1 "*,* rep from * 9223372036854775808 times" with
        | .error stop => some stop
        | .ok _ => none) = some (.halted .tooManyCopies) := by decide +kernel
    split at h
    · next stop hstop => rw [hstop, Option.some.inj h]
    · cases h
  · have hnone : ctx.operations 1 [','] = .ok [] := rfl
    have hcopies : copies 9223372036854775808 ([] : List Operation) = [] := rfl
    rw [ctx.expand_of_star_not_mem 1 (by decide) (star_not_mem_unrolled (by decide) _),
      expandPlain_eq, ctx.operations_unrolled 1 (by decide), hnone]
    simp only [Except.map, Except.bind, hcopies]
    rfl

theorem eq_ok_of_toOption {x : Except Stop Expansion} {ops : List Operation}
    {remarks : List Remark}
    (h : x.toOption.map (fun e => (e.operations, e.remarks)) = some (ops, remarks)) :
    x = .ok ⟨ops, remarks⟩ := by
  obtain ⟨e, rfl, he⟩ := exists_eq_ok_of_toOption h
  cases he
  rfl

/-- A block in mixed letters, repeated from star to star and cut to two copies. -/
theorem expand_block_clamped :
    let ctx : Context := { limits := ⟨2, 10⟩ }
    let knit : Operation := {
      code := "k1"
      label := "Knit"
      consume := 1
      produce := 1
      units := 1
      units_pos := Nat.one_pos }
    let purl : Operation := {
      code := "p1"
      label := "Purl"
      consume := 1
      produce := 1
      units := 1
      units_pos := Nat.one_pos }
    let sp : Spelling := {
      opening := .nothing
      before := .space
      closing := some .nothing
      delimiter := some ⟨';', rfl, .space⟩
      rep := {
        rep := ⟨"Rep".toList, rfl⟩
        eat := some ⟨"eat".toList, rfl⟩
        afterRep := .space
        fromWord := ⟨"from".toList, rfl⟩
        afterFrom := .space }
      target := some ⟨.space, ⟨"to".toList, rfl⟩, .space⟩
      times := {
        before := .space
        after := .space
        time := ⟨"TIME".toList, rfl⟩
        plural := some ⟨"S".toList, rfl⟩
        stop := true } }
    String.ofList (sp.text "k1, p1".toList ['3']) = "*k1, p1 *; Repeat from * to * 3 TIMES." ∧
      ctx.expand 90 "*k1, p1 *; Repeat from * to * 3 TIMES." =
        .ok ⟨[knit, purl, knit, purl], [.clamped 3 2]⟩ := by
  intro ctx knit purl sp
  have h := (ctx.expand_block 90 (by decide) (by decide)).1 sp "k1, p1".toList ['3'] (by decide)
    (by decide) (by decide) (List.forall_mem_singleton.2 (by decide +kernel)) (by decide)
    (by decide +kernel)
  have hflat : ctx.expand 90 (unrolled (ctx.allowed ['3']).toNat "k1, p1".toList) =
      .ok ⟨[knit, purl, knit, purl], []⟩ := eq_ok_of_toOption (by decide +kernel)
  have hone : ctx.expand 90 (String.ofList "k1, p1".toList) = .ok ⟨[knit, purl], []⟩ :=
    eq_ok_of_toOption (by decide +kernel)
  obtain ⟨one, hread, hblock⟩ := h.expands _ hflat (by decide +kernel) (by decide)
  have htext : String.ofList (sp.text "k1, p1".toList ['3']) =
      "*k1, p1 *; Repeat from * to * 3 TIMES." := by decide +kernel
  have hremarks : ctx.clampRemarks ['3'] = [.clamped 3 2] := by decide +kernel
  cases hone.symm.trans hread
  rw [htext, hremarks] at hblock
  exact ⟨htext, hblock⟩

end Context

end KnitPattern
