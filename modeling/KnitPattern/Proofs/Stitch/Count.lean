/-
  The counts of instructions. Whatever the shape of an instruction, its count is a run of digits
  of the token (`finds_scan`, one case for each shape). Counts that are read are below every limit
  that has too many digits (`Stitch.widest_lt`), so a remark on them can be written unless the
  limit is as far below zero. Otherwise only a numeral that is too long keeps a token from having
  an operation, and the operations of tokens are built from numbers that an operation may have.
-/
import KnitPattern.Proofs.Halting
import KnitPattern.Proofs.Numeral
import KnitPattern.Proofs.Text.Scan
import KnitPattern.Stitch.Reading

namespace KnitPattern

open Text Scan

namespace Count

theorem digit?_of_lead? {c : Char} {k : Fin 9} (h : lead? c = some k) :
    digit? c = some (k.1 + 1) := by
  obtain ⟨⟨hle, hge⟩, hk⟩ := Option.dite_none_right_eq_some.1 h
  cases hk
  have hzero : digitZeros.find? (fun z => z ≤ c.toNat && c.toNat < z + 10) = some 0x30 := by
    refine List.find?_cons_of_pos ?_
    simp only [Bool.and_eq_true, decide_eq_true_eq]
    omega
  rw [digit?, hzero, Option.map_some]
  show some (c.toNat - 0x30) = some (c.toNat - 0x31 + 1)
  rw [Option.some_inj]
  omega

theorem isDigit_of_lead? {c : Char} {k : Fin 9} (h : lead? c = some k) : isDigit c = true := by
  rw [isDigit, digit?_of_lead? h]
  rfl

/-- The count stands in the text, its first digit as some character. -/
def WrittenIn (n : Count) (s : List Char) : Prop :=
  ∃ c, DigitRun (c :: n.rest) s

theorem WrittenIn.append_left {n : Count} {s : List Char} (h : n.WrittenIn s) (v : List Char) :
    n.WrittenIn (v ++ s) := by
  obtain ⟨c, hc⟩ := h
  exact ⟨c, hc.of_isInfix (List.suffix_append v s).isInfix⟩

theorem finds_scan : Finds WrittenIn scan := by
  intro s n r h
  obtain ⟨lead, t, hlead, h⟩ := bind_eq_some.1 h
  obtain ⟨rest, t', hrest, h⟩ := bind_eq_some.1 h
  cases h
  obtain ⟨rfl, hdigits, -⟩ := run_eq_some hrest
  cases s with
  | nil => cases hlead
  | cons c s =>
    obtain ⟨k, hk, heq⟩ := Option.map_eq_some_iff.1 hlead
    cases heq
    exact ⟨c, List.forall_mem_cons.2 ⟨isDigit_of_lead? hk, hdigits⟩,
      (List.prefix_append (c :: rest) r).isInfix⟩

theorem lt_of_read {n : Count} {k : { k : Nat // 0 < k }} (h : n.read = .ok k) :
    k.1 < 10 ^ Halt.digitLimit := by
  unfold read at h
  split at h
  · next hlen =>
    cases h
    have hlead := n.lead.2
    calc n.value < (n.lead + 1 + 1) * 10 ^ n.rest.length := Numeral.extend_lt _ _
      _ ≤ 10 * 10 ^ n.rest.length := Nat.mul_le_mul_right _ (by omega)
      _ = 10 ^ (n.rest.length + 1) := by rw [Nat.pow_succ, Nat.mul_comm]
      _ ≤ 10 ^ Halt.digitLimit := Nat.pow_le_pow_right (by decide) hlen
  · cases h

theorem tooLongIn_of_read {n : Count} {s : List Char} {why : Halt} (hn : n.WrittenIn s)
    (h : n.read = .error why) : Numeral.TooLongIn s why := by
  obtain ⟨c, hc⟩ := hn
  unfold read at h
  split at h
  · cases h
  · next hlen =>
    cases h
    exact ⟨c :: n.rest, hc, Nat.lt_of_not_le hlen, rfl⟩

end Count

/-! ## The count of an instruction -/

/-- The count of an instruction, if its shape has one. -/
def Stitch.count? : Stitch → Option Count
  | cableHold n | cableFromNeedle n | decrease n | slip n | counted n => some n
  | knitYarnKnit | yarnOver | centeredDecrease | single => none

/-- The count of an instruction, if it has one, stands in the text. -/
def Stitch.CountIn (st : Stitch) (s : List Char) : Prop :=
  ∀ n, st.count? = some n → n.WrittenIn s

namespace Shape

/-- Every instruction that the scanner reads has that count, or none. -/
def Has (o : Option Count) (q : Scan Stitch) : Prop :=
  Finds (fun st _ => st.count? = o) q

variable {α : Type} {o : Option Count}

theorem has_pure {st : Stitch} (h : st.count? = o) : Has o (pure st) := by
  intro s a r hread
  cases hread
  exact h

theorem has_bind {q : Scan α} {f : α → Scan Stitch} (hf : ∀ a, Has o (f a)) :
    Has o (q >>= f) := by
  intro s b r h
  obtain ⟨a, t, -, h⟩ := bind_eq_some.1 h
  exact hf a t b r h

theorem finds_after {q : Scan α} {f : α → Scan Stitch} (hq : Keeps q)
    (hf : ∀ a, Finds Stitch.CountIn (f a)) : Finds Stitch.CountIn (q >>= f) :=
  Finds.after (fun _ v _ h n hn => (h n hn).append_left v) hq hf

theorem finds_of_none {q : Scan Stitch} (hq : Has none q) : Finds Stitch.CountIn q := by
  intro s st r h n hn
  rw [hq s st r h] at hn
  cases hn

theorem finds_count {f : Count → Scan Stitch} (hf : ∀ n, Has (some n) (f n)) :
    Finds Stitch.CountIn (Count.scan >>= f) := by
  intro s st r h m hm
  obtain ⟨n, t, hcount, h⟩ := bind_eq_some.1 h
  rw [hf n t st r h] at hm
  rw [← Option.some.inj hm]
  exact Count.finds_scan s n t hcount

theorem keeps_knitOrPurl : Keeps knitOrPurl :=
  (keeps_letters _).orElse (keeps_letters _)

/-- The count of an instruction of any shape stands in the text it is read from. -/
theorem finds_scan (shape : Shape) : Finds Stitch.CountIn shape.scan := by
  cases shape with
  | cableHold =>
    refine finds_after (keeps_letters _) fun _ => finds_after keeps_blanks1 fun _ =>
      finds_count fun n => ?_
    repeat refine has_bind fun _ => ?_
    exact has_pure rfl
  | cableFromNeedle =>
    refine finds_after (keeps_letters _) fun _ => finds_count fun n => ?_
    exact has_bind fun _ => has_bind fun _ => has_pure rfl
  | knitYarnKnit =>
    refine finds_of_none ?_
    repeat refine has_bind fun _ => ?_
    exact has_pure rfl
  | yarnOver => exact finds_of_none (has_bind fun _ => has_pure rfl)
  | centeredDecrease => exact finds_of_none (has_bind fun _ => has_pure rfl)
  | decrease =>
    refine finds_after keeps_knitOrPurl fun _ => finds_count fun n => ?_
    repeat refine has_bind fun _ => ?_
    exact has_pure rfl
  | slip =>
    refine finds_after (keeps_letters _) fun _ => finds_after keeps_blanks fun _ =>
      finds_count fun n => has_pure rfl
  | counted =>
    exact finds_after keeps_knitOrPurl fun _ => finds_count fun n => has_pure rfl
  | single => exact finds_of_none (has_bind fun _ => has_pure rfl)

end Shape

namespace Stitch

theorem countIn_of_ofToken? {token : List Char} {st : Stitch} (h : ofToken? token = some st) :
    st.CountIn token := by
  obtain ⟨shape, -, hread⟩ := List.exists_of_findSome?_eq_some h
  exact shape.finds_scan token st [] (whole_eq_some.1 hread)

theorem exists_of_counts_eq_error {st : Stitch} {why : Halt} (h : st.counts = .error why) :
    ∃ n, st.count? = some n ∧ n.read = .error why := by
  have hmap : ∀ {n : Count} {f : { k : Nat // 0 < k } → Counts},
      n.read.map f = .error why → n.read = .error why := by
    intro n f h
    cases hread : n.read with
    | error e =>
      rw [hread] at h
      cases h
      rfl
    | ok k =>
      rw [hread] at h
      cases h
  cases st with
  | decrease n => exact ⟨n, rfl, hmap h⟩
  | cableFromNeedle n => exact ⟨n, rfl, hmap h⟩
  | slip n => exact ⟨n, rfl, hmap h⟩
  | counted n => exact ⟨n, rfl, hmap h⟩
  | cableHold | knitYarnKnit | yarnOver | centeredDecrease | single => cases h

/-- Only a numeral of the token that is too long keeps its counts from being read. -/
theorem tooLongIn_of_counts {token : List Char} {st : Stitch} {why : Halt}
    (hst : ofToken? token = some st) (h : st.counts = .error why) :
    Numeral.TooLongIn token why := by
  obtain ⟨n, hn, hread⟩ := exists_of_counts_eq_error h
  exact Count.tooLongIn_of_read (countIn_of_ofToken? hst n hn) hread

/-- Counts that are read can be written. -/
theorem widest_lt {st : Stitch} {c : Counts} (h : st.counts = .ok c) :
    c.widest < Nat.pow 10 Halt.digitLimit := by
  rw [Halt.pow_digitLimit]
  have hthree : 3 < 10 ^ Halt.digitLimit :=
    Nat.lt_of_lt_of_le (by decide : 3 < 10 ^ 1) (Nat.pow_le_pow_right (by decide) (by decide))
  have hread : ∀ {n : Count} {f : { k : Nat // 0 < k } → Counts},
      (∀ k, (f k).widest ≤ k.1) → n.read.map f = .ok c → c.widest < 10 ^ Halt.digitLimit := by
    intro n f hf h
    obtain ⟨k, hk, rfl⟩ := map_eq_ok_iff.1 h
    exact Nat.lt_of_le_of_lt (hf k) (Count.lt_of_read hk)
  cases st with
  | decrease n =>
    refine hread (fun k => ?_) h
    have hpos := k.2
    show max (max k.1 1) k.1 ≤ k.1
    omega
  | cableFromNeedle n | slip n | counted n =>
    refine hread (fun k => ?_) h
    show max (max k.1 k.1) k.1 ≤ k.1
    omega
  | cableHold | knitYarnKnit | yarnOver | centeredDecrease | single =>
    cases h
    exact Nat.lt_of_le_of_lt (by decide) hthree

end Stitch

/-! ## The operation of a token -/

theorem Operation.eq_of_written {op op' : Operation} (h : op.written = .ok op') : op' = op := by
  unfold written at h
  split at h
  · exact (Except.ok.inj h).symm
  · cases h

theorem Operation.written_of_remark_eq_none {op : Operation} (h : op.remark = none) :
    op.written = .ok op := by
  rw [written, h]
  rfl

namespace Context

variable {ctx : Context} {token : String}

/-- An instruction with counts that were read has an operation whose remark can be written, unless
the limit on stitches is too far below zero. -/
theorem written_limited {st : Stitch} {c : Stitch.Counts} (hc : st.counts = .ok c)
    (hlow : -(Nat.pow 10 Halt.digitLimit : Int) < ctx.limits.stitches) :
    (ctx.limited token c).written = .ok (ctx.limited token c) := by
  unfold limited
  split
  · next hover =>
    have hhigh := Int.lt_trans hover (Int.ofNat_lt.2 (Stitch.widest_lt hc))
    have hlimit : Halt.isWritable ctx.limits.stitches = true := Halt.isWritable_of_lt hlow hhigh
    simp only [Operation.written, Operation.guess, Option.all_some, Operation.Remark.isWritable,
      hlimit, if_true]
  · exact Operation.written_of_remark_eq_none rfl

/-- The operation of a token is a guess, or that of counts that were read. -/
theorem classify_eq_ok_iff {op : Operation} : ctx.classify token = .ok op ↔
    (Stitch.ofToken? token.toList = none ∧
      op = .guess token (ctx.label token) (.unrecognized token)) ∨
    ∃ st c, Stitch.ofToken? token.toList = some st ∧ st.counts = .ok c ∧
      (ctx.limited token c).written = .ok op := by
  unfold classify
  cases Stitch.ofToken? token.toList with
  | none => simp [eq_comm]
  | some st => simp [bind_eq_ok_iff]

/-- Only a numeral that is too long keeps a token from having an operation, unless the limit on
stitches is too far below zero. -/
theorem tooLongIn_of_classify {why : Halt}
    (hlow : -(Nat.pow 10 Halt.digitLimit : Int) < ctx.limits.stitches)
    (h : ctx.classify token = .error why) : Numeral.TooLongIn token.toList why := by
  unfold classify at h
  split at h
  · cases h
  · next st hst =>
    rcases bind_eq_error_iff.1 h with hcounts | ⟨c, hc, h⟩
    · exact Stitch.tooLongIn_of_counts hst hcounts
    · rw [written_limited hc hlow] at h
      cases h

end Context

end KnitPattern
