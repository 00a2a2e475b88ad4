/-
  No token has two shapes. The letters of a token, with everything between them taken away, and
  whether it has a digit tell its shape (`eq_of_writes`): there are a few letterings for each
  shape, and of two shapes with a lettering in common only one has digits. So the order in which
  the shapes are tried does not matter (`ofTokenBy?_of_perm`), and a token is counted as the
  grammar says or, if no shape fits, as a guess (`classify_by_grammar`).
-/
import KnitPattern.Proofs.Stitch.Grammar
import KnitPattern.Proofs.Text.Lettering

namespace KnitPattern

open Text Scan

namespace WrittenCount

variable (n : WrittenCount)

theorem lettering_eq : lettering n.text = [] :=
  lettering_eq_nil (fun _ => not_isDigit_of_isCased) n.all_isDigit

theorem find?_isDigit : n.text.find? isDigit = some n.first :=
  List.find?_cons_of_pos n.isDigit_first

end WrittenCount

/-! ## The letters of a shape -/

namespace Shape

/-- The letters of the instructions of a shape. -/
def letterings : Shape → List String
  | cableHold =>
    ["placestoncnandholdtotheback", "placestoncnandholdinfront",
      "placestsoncnandholdtotheback", "placestsoncnandholdinfront"]
  | cableFromNeedle => ["kfromcn"]
  | knitYarnKnit => ["kyok"]
  | yarnOver => ["yo"]
  | centeredDecrease => ["cdd"]
  | decrease =>
    ["ktog", "ktogtbl", "ktogtlb", "ktogfromcn", "ktogtblfromcn", "ktogtlbfromcn",
      "ptog", "ptogtbl", "ptogtlb", "ptogfromcn", "ptogtblfromcn", "ptogtlbfromcn"]
  | slip => ["sl"]
  | counted => ["k", "p"]
  | single => ["k", "p"]

/-- Whether the instructions of a shape have a digit. -/
def numbered : Shape → Bool
  | cableHold | cableFromNeedle | knitYarnKnit | decrease | slip | counted => true
  | yarnOver | centeredDecrease | single => false

/-- The shapes are told apart by letters and digits. -/
theorem eq_of_mem_letterings : ∀ a b : Shape, a.numbered = b.numbered →
    ∀ w ∈ a.letterings, w ∈ b.letterings → a = b := by
  intro a b
  cases a <;> cases b <;> decide

/-! ## What is left of the texts of a shape -/

theorem lettering_sideText (x : Side) :
    lettering (sideText x) = "totheback".toList ∨ lettering (sideText x) = "infront".toList := by
  cases x with
  | inl back => exact .inl back.2.lettering_eq
  | inr front => exact .inr front.2.lettering_eq

theorem lettering_twistText (x : Twist) :
    lettering (twistText x) = "tbl".toList ∨ lettering (twistText x) = "tlb".toList := by
  rw [twistText, lettering_append, x.1.lettering_eq, List.nil_append]
  obtain ⟨w, hw, h⟩ := x.2.exists_lettering_eq
  rcases List.mem_pair.1 hw with rfl | rfl
  · exact .inl h
  · exact .inr h

theorem lettering_fromNeedleText (x : FromNeedle) :
    lettering (fromNeedleText x) = "fromcn".toList := by
  rw [fromNeedleText, lettering_append, x.1.lettering_eq, List.nil_append]
  exact x.2.2.lettering_eq

theorem lettering_knitOrPurl (kp : SpelledIn ["k", "p"]) :
    lettering kp.1 = "k".toList ∨ lettering kp.1 = "p".toList := by
  obtain ⟨w, hw, h⟩ := kp.exists_lettering_eq
  rcases List.mem_pair.1 hw with rfl | rfl
  · exact .inl h
  · exact .inr h

/-- The letters of a text of a shape are among those of the shape. -/
theorem lettering_mem {a : Shape} {t : List Char} {c : Stitch.Counts} (h : Writes a t c) :
    lettering t ∈ a.letterings.map String.toList := by
  cases h with
  | cableHold place g₁ n g₂ st plural g₃ hold g₄ side =>
    simp only [lettering_append, place.lettering_eq, g₁.lettering_eq, n.lettering_eq,
      g₂.lettering_eq, st.lettering_eq, g₃.lettering_eq, hold.2.lettering_eq, g₄.lettering_eq]
    rcases lettering_sideText side with h | h <;> rw [h] <;> cases plural with
    | none => decide
    | some s => rw [Option.elim_some, s.lettering_eq]; decide
  | cableFromNeedle k n needle =>
    simp only [lettering_append, k.lettering_eq, n.lettering_eq, lettering_fromNeedleText]
    decide
  | knitYarnKnit k₁ g₁ yo g₂ k₂ =>
    simp only [lettering_append, k₁.lettering_eq, g₁.lettering_eq, yo.lettering_eq,
      g₂.lettering_eq, k₂.lettering_eq]
    decide
  | yarnOver yo =>
    rw [yo.lettering_eq]
    decide
  | centeredDecrease cdd =>
    rw [cdd.lettering_eq]
    decide
  | decrease kp n tog loops needle =>
    have hloops : lettering (loops.elim [] twistText) ∈
        ["".toList, "tbl".toList, "tlb".toList] := by
      cases loops with
      | none => exact List.mem_cons_self
      | some x => exact List.mem_cons_of_mem _ (List.mem_pair.2 (lettering_twistText x))
    have hneedle : lettering (needle.elim [] fromNeedleText) ∈
        ["".toList, "fromcn".toList] := by
      cases needle with
      | none => exact List.mem_cons_self
      | some x => exact List.mem_pair.2 (.inr (lettering_fromNeedleText x))
    have hall : ∀ v ∈ ["k".toList, "p".toList],
        ∀ l ∈ ["".toList, "tbl".toList, "tlb".toList], ∀ w ∈ ["".toList, "fromcn".toList],
        v ++ ([] ++ ("tog".toList.filter Char.isLower ++ (l ++ w))) ∈
          decrease.letterings.map String.toList := by
      decide
    simp only [lettering_append, n.lettering_eq, tog.lettering_eq]
    exact hall _ (List.mem_pair.2 (lettering_knitOrPurl kp)) _ hloops _ hneedle
  | slip sl gap n =>
    simp only [lettering_append, sl.lettering_eq, gap.lettering_eq, n.lettering_eq]
    decide
  | counted kp n =>
    rw [lettering_append, n.lettering_eq]
    rcases lettering_knitOrPurl kp with h | h <;> rw [h] <;> decide
  | single kp =>
    rcases lettering_knitOrPurl kp with h | h <;> rw [h] <;> decide

/-- The text has digits if the shape has, and the first of them is one from 1 to 9. -/
def DigitsFit (a : Shape) (t : List Char) : Prop :=
  (t.find? isDigit).isSome = a.numbered ∧
    ∀ d, t.find? isDigit = some d → (Count.lead? d).isSome = true

theorem digitsFit_of_count {a : Shape} {t : List Char} (ha : a.numbered = true)
    (n : WrittenCount) (h : t.find? isDigit = some n.first) : a.DigitsFit t := by
  rw [DigitsFit, h, ha]
  refine ⟨rfl, fun d hd => ?_⟩
  rw [← Option.some.inj hd, n.lead?_first]
  rfl

theorem digitsFit_of_none {a : Shape} {t : List Char} (ha : a.numbered = false)
    (h : t.find? isDigit = none) : a.DigitsFit t := by
  rw [DigitsFit, h, ha]
  exact ⟨rfl, fun d hd => by cases hd⟩

/-- Before the count of a text there are only letters and blanks. -/
theorem digitsFit_of_writes {a : Shape} {t : List Char} {c : Stitch.Counts}
    (h : Writes a t c) : a.DigitsFit t := by
  have hkp : ∀ kp : SpelledIn ["k", "p"], kp.1.find? isDigit = none :=
    SpelledIn.find?_isDigit (by decide +kernel)
  cases h with
  | cableHold place g₁ n g₂ st plural g₃ hold g₄ side =>
    refine digitsFit_of_count rfl n ?_
    rw [List.find?_append, List.find?_append, List.find?_append,
      place.find?_isDigit_eq_none (by decide), g₁.find?_isDigit, n.find?_isDigit]
    rfl
  | cableFromNeedle k n needle =>
    refine digitsFit_of_count rfl n ?_
    rw [List.find?_append, List.find?_append, k.find?_isDigit_eq_none (by decide),
      n.find?_isDigit]
    rfl
  | knitYarnKnit k₁ g₁ yo g₂ k₂ =>
    have hone : k₁.1.find? isDigit = some '1' := by
      rw [k₁.find?_isDigit]
      decide +kernel
    rw [DigitsFit, List.find?_append, hone]
    exact ⟨rfl, fun d hd => by cases hd; decide⟩
  | yarnOver yo => exact digitsFit_of_none rfl (yo.find?_isDigit_eq_none (by decide))
  | centeredDecrease cdd => exact digitsFit_of_none rfl (cdd.find?_isDigit_eq_none (by decide))
  | decrease kp n tog loops needle =>
    refine digitsFit_of_count rfl n ?_
    rw [List.find?_append, List.find?_append, hkp kp, n.find?_isDigit]
    rfl
  | slip sl gap n =>
    refine digitsFit_of_count rfl n ?_
    rw [List.find?_append, List.find?_append, sl.find?_isDigit_eq_none (by decide),
      gap.find?_isDigit, n.find?_isDigit]
    rfl
  | counted kp n =>
    refine digitsFit_of_count rfl n ?_
    rw [List.find?_append, hkp kp, n.find?_isDigit]
    rfl
  | single kp => exact digitsFit_of_none rfl (hkp kp)

/-- A text is of one shape only. -/
theorem eq_of_writes {a b : Shape} {t : List Char} {c c' : Stitch.Counts} (ha : Writes a t c)
    (hb : Writes b t c') : a = b := by
  have hnumbered : a.numbered = b.numbered := by
    rw [← (digitsFit_of_writes ha).1, ← (digitsFit_of_writes hb).1]
  obtain ⟨v, hv, hav⟩ := List.mem_map.1 (lettering_mem ha)
  obtain ⟨w, hw, hbw⟩ := List.mem_map.1 (lettering_mem hb)
  have hvw : v = w := String.toList_inj.1 (hav.trans hbw.symm)
  rw [← hvw] at hw
  exact eq_of_mem_letterings a b hnumbered v hv hw

theorem isSome_whole_scan_iff {a : Shape} {t : List Char} :
    (whole a.scan t).isSome = true ↔ ∃ c, Writes a t c := by
  constructor
  · intro h
    obtain ⟨st, hst⟩ := Option.isSome_iff_exists.1 h
    exact exists_writes hst
  · rintro ⟨c, hc⟩
    obtain ⟨st, hst, -⟩ := exists_of_writes hc
    exact Option.isSome_iff_exists.2 ⟨st, hst⟩

/-- A text is read by the scanner of one shape only. -/
theorem eq_of_isSome_whole {a b : Shape} {t : List Char} (ha : (whole a.scan t).isSome = true)
    (hb : (whole b.scan t).isSome = true) : a = b := by
  obtain ⟨c, hc⟩ := isSome_whole_scan_iff.1 ha
  obtain ⟨c', hc'⟩ := isSome_whole_scan_iff.1 hb
  exact eq_of_writes hc hc'

theorem mem_all (a : Shape) : a ∈ all := by
  cases a <;> decide

end Shape

/-! ## Shapes tried in another order -/

namespace Stitch

/-- The instruction that a whole token spells, by the first of the given shapes that fits it. -/
def ofTokenBy? (shapes : List Shape) (token : List Char) : Option Stitch :=
  shapes.findSome? fun s => whole s.scan token

theorem ofTokenBy?_all (token : List Char) : ofTokenBy? Shape.all token = ofToken? token := rfl

/-- Where all shapes are tried, the one that fits decides. -/
theorem ofTokenBy?_eq_some_iff {shapes : List Shape} (hall : ∀ a, a ∈ shapes)
    {token : List Char} {st : Stitch} :
    ofTokenBy? shapes token = some st ↔ ∃ a : Shape, whole a.scan token = some st := by
  constructor
  · intro h
    obtain ⟨a, -, ha⟩ := List.exists_of_findSome?_eq_some h
    exact ⟨a, ha⟩
  · rintro ⟨a, ha⟩
    have hsome : (ofTokenBy? shapes token).isSome = true :=
      List.findSome?_isSome_iff.2 ⟨a, hall a, Option.isSome_iff_exists.2 ⟨st, ha⟩⟩
    obtain ⟨st', hst'⟩ := Option.isSome_iff_exists.1 hsome
    obtain ⟨b, -, hb⟩ := List.exists_of_findSome?_eq_some hst'
    have hab : a = b := Shape.eq_of_isSome_whole (Option.isSome_iff_exists.2 ⟨st, ha⟩)
      (Option.isSome_iff_exists.2 ⟨st', hb⟩)
    rw [hst', ← hb, ← hab, ha]

theorem ofTokenBy?_of_perm {shapes : List Shape} (h : shapes.Perm Shape.all)
    (token : List Char) : ofTokenBy? shapes token = ofToken? token := by
  have hall : ∀ a, a ∈ shapes := fun a => h.mem_iff.2 a.mem_all
  refine Option.ext fun st => ?_
  rw [← ofTokenBy?_all, ofTokenBy?_eq_some_iff hall, ofTokenBy?_eq_some_iff Shape.mem_all]

end Stitch

/-! ## The operation of a token -/

namespace Context

variable {ctx : Context} {token : String}

/-- The operation of a token where the given shapes are tried in their order. -/
def classifyBy (ctx : Context) (shapes : List Shape) (token : String) : Except Halt Operation :=
  match Stitch.ofTokenBy? shapes token.toList with
  | none => .ok (.guess token (ctx.label token) (.unrecognized token))
  | some stitch => do (ctx.limited token (← stitch.counts)).written

theorem classifyBy_of_perm {shapes : List Shape} (h : shapes.Perm Shape.all) :
    ctx.classifyBy shapes token = ctx.classify token := by
  rw [classifyBy, Stitch.ofTokenBy?_of_perm h]
  rfl

/-- A token without an overlong run of digits has an operation. -/
theorem exists_classify_eq_ok (hstitches : 1 ≤ ctx.limits.stitches)
    (hruns : ∀ ds, DigitRun ds token.toList → ds.length ≤ Halt.digitLimit) :
    ∃ op, ctx.classify token = .ok op := by
  cases h : ctx.classify token with
  | ok op => exact ⟨op, rfl⟩
  | error why =>
    obtain ⟨ds, hds, hlen, -⟩ := tooLongIn_of_classify (Halt.neg_lt_of_pos hstitches) h
    exact absurd (hruns ds hds) (Nat.not_le.2 hlen)

theorem classify_of_not_writes (ctx : Context) (h : ∀ a c, ¬ Shape.Writes a token.toList c) :
    ctx.classify token = .ok (.guess token (ctx.label token) (.unrecognized token)) := by
  have hnone : Stitch.ofToken? token.toList = none := by
    refine List.findSome?_eq_none_iff.2 fun a _ => Option.not_isSome_iff_eq_none.1 fun hsome => ?_
    obtain ⟨c, hc⟩ := Shape.isSome_whole_scan_iff.1 hsome
    exact h a c hc
  rw [classify, hnone]

theorem classify_of_writes {a : Shape} {c : Stitch.Counts} {op : Operation}
    (h : Shape.Writes a token.toList c) (hop : ctx.classify token = .ok op) :
    op = ctx.limited token c := by
  obtain ⟨st, hst, hcounts⟩ := Shape.exists_of_writes h
  have hread : Stitch.ofToken? token.toList = some st :=
    (Stitch.ofTokenBy?_eq_some_iff Shape.mem_all).2 ⟨a, hst⟩
  rcases classify_eq_ok_iff.1 hop with ⟨hnone, -⟩ | ⟨st', k, hst', hk, hop⟩
  · rw [hread] at hnone
    cases hnone
  · cases hread.symm.trans hst'
    rw [Operation.eq_of_written hop, hcounts k hk]

/-- A token of a shape without an overlong run of digits has just the counts of the shape. -/
theorem exists_counts_of_writes {a : Shape} {c : Stitch.Counts}
    (hruns : ∀ ds, DigitRun ds token.toList → ds.length ≤ Halt.digitLimit)
    (h : Shape.Writes a token.toList c) :
    ∃ st, Stitch.ofToken? token.toList = some st ∧ st.counts = .ok c := by
  obtain ⟨st, hst, hcounts⟩ := Shape.exists_of_writes h
  have hread : Stitch.ofToken? token.toList = some st :=
    (Stitch.ofTokenBy?_eq_some_iff Shape.mem_all).2 ⟨a, hst⟩
  refine ⟨st, hread, ?_⟩
  cases hk : st.counts with
  | error why =>
    obtain ⟨ds, hds, hlen, -⟩ := Stitch.tooLongIn_of_counts hread hk
    exact absurd (hruns ds hds) (Nat.not_le.2 hlen)
  | ok k => rw [hcounts k hk]

theorem remark_limited_eq_none_iff (c : Stitch.Counts) :
    (ctx.limited token c).remark = none ↔ c.consume ≤ ctx.limits.stitches ∧
      c.produce ≤ ctx.limits.stitches ∧ c.units ≤ ctx.limits.stitches := by
  unfold limited
  split
  · next h =>
    refine iff_of_false (Option.some_ne_none _) fun hle => ?_
    unfold Stitch.Counts.widest at h
    omega
  · next h =>
    refine iff_of_true rfl ?_
    unfold Stitch.Counts.widest at h
    omega

/-- The operation has the counts of the instruction, or it is a guess of one stitch. -/
theorem counts_limited (c : Stitch.Counts) :
    ((ctx.limited token c).remark = none →
      ((ctx.limited token c).consume, (ctx.limited token c).produce,
        (ctx.limited token c).units) = (c.consume, c.produce, c.units)) ∧
    ((ctx.limited token c).remark ≠ none →
      ((ctx.limited token c).consume, (ctx.limited token c).produce,
        (ctx.limited token c).units) = (1, 1, 1)) := by
  unfold limited
  split
  · exact ⟨fun h => absurd h (Option.some_ne_none _), fun _ => rfl⟩
  · exact ⟨fun _ => rfl, fun h => absurd rfl h⟩

theorem limited_named (ctx : Context) (token : String) (c : Stitch.Counts) :
    (ctx.limited token c).code = token ∧ (ctx.limited token c).label = ctx.label token := by
  unfold limited
  split <;> exact ⟨rfl, rfl⟩

/-- The grammar of instructions is unambiguous: a token is read by the scanner of at most one
shape, and of just the shape it is written in, so the shapes may be tried in any order. A token
without an overlong run of digits has an operation, and gets it unless its remark names a limit
that is too far below zero to be written. The operation has no remark just if the token is
written in one of the shapes and its counts are within the limit on stitches, and then it has
these counts; every other token is a guess of one stitch with a remark, as is every token whose
first digit is none from 1 to 9. -/
theorem classify_by_grammar (ctx : Context) (token : String) :
    (∀ a : Shape, (whole a.scan token.toList).isSome = true ↔ ∃ c, a.Writes token.toList c) ∧
    (∀ a b : Shape, (whole a.scan token.toList).isSome = true →
      (whole b.scan token.toList).isSome = true → a = b) ∧
    (∀ shapes : List Shape, shapes.Perm Shape.all →
      Stitch.ofTokenBy? shapes token.toList = Stitch.ofToken? token.toList ∧
        ctx.classifyBy shapes token = ctx.classify token) ∧
    ((∀ ds, DigitRun ds token.toList → ds.length ≤ Halt.digitLimit) →
      ∃ op : Operation, ctx.classify token = op.written ∧
        (-(Nat.pow 10 Halt.digitLimit : Int) < ctx.limits.stitches → op.written = .ok op) ∧
        op.code = token ∧ op.label = ctx.label token ∧
        (op.remark = none ↔ ∃ (a : Shape) (c : Stitch.Counts), a.Writes token.toList c ∧
          c.consume ≤ ctx.limits.stitches ∧ c.produce ≤ ctx.limits.stitches ∧
          c.units ≤ ctx.limits.stitches) ∧
        (op.remark = none → ∀ (a : Shape) (c : Stitch.Counts), a.Writes token.toList c →
          (op.consume, op.produce, op.units) = (c.consume, c.produce, c.units)) ∧
        (op.remark ≠ none → (op.consume, op.produce, op.units) = (1, 1, 1)) ∧
        (∀ d, token.toList.find? isDigit = some d → Count.lead? d = none →
          op.remark = some (.unrecognized token))) := by
  refine ⟨fun a => Shape.isSome_whole_scan_iff, fun a b => Shape.eq_of_isSome_whole,
    fun shapes h => ⟨Stitch.ofTokenBy?_of_perm h _, classifyBy_of_perm h⟩, fun hruns => ?_⟩
  by_cases hwritten : ∃ (a : Shape) (c : Stitch.Counts), a.Writes token.toList c
  · obtain ⟨a, c, hc⟩ := hwritten
    obtain ⟨st, hst, hcounts⟩ := exists_counts_of_writes hruns hc
    have hunique : ∀ (b : Shape) (c' : Stitch.Counts), b.Writes token.toList c' → c' = c := by
      intro b c' hc'
      obtain ⟨st', hst', hcounts'⟩ := exists_counts_of_writes hruns hc'
      cases hst.symm.trans hst'
      exact Except.ok.inj (hcounts'.symm.trans hcounts)
    have hclassify : ctx.classify token = (ctx.limited token c).written := by
      rw [classify, hst]
      show (st.counts >>= fun c => (ctx.limited token c).written) = _
      rw [hcounts]
      rfl
    obtain ⟨hcode, hlabel⟩ := limited_named ctx token c
    refine ⟨ctx.limited token c, hclassify, written_limited hcounts, hcode, hlabel,
      ⟨fun h => ⟨a, c, hc, (remark_limited_eq_none_iff c).1 h⟩, ?_⟩, fun h b c' hc' => ?_,
      (counts_limited c).2, ?_⟩
    · rintro ⟨b, c', hc', hle⟩
      obtain rfl := hunique b c' hc'
      exact (remark_limited_eq_none_iff c').2 hle
    · obtain rfl := hunique b c' hc'
      exact (counts_limited c').1 h
    · intro d hd hnone
      have hsome := (Shape.digitsFit_of_writes hc).2 d hd
      rw [hnone] at hsome
      cases hsome
  · have hguess := classify_of_not_writes ctx fun a c hc => hwritten ⟨a, c, hc⟩
    exact ⟨.guess token (ctx.label token) (.unrecognized token), hguess, fun _ => rfl, rfl, rfl,
      iff_of_false (Option.some_ne_none _) fun ⟨a, c, hc, _⟩ => absurd ⟨a, c, hc⟩ hwritten,
      fun h => absurd h (Option.some_ne_none _), fun _ => rfl, fun _ _ _ => rfl⟩

/-- A decrease with a Kelvin sign for its first letter and twisted loops, and the same decrease
with a zero before the number. -/
theorem classify_by_grammar_of_twisted :
    (∃ op, classify {} "\u212A12toG  tlB from cn" = .ok op ∧ op.remark = none ∧
      (op.consume, op.produce, op.units) = (12, 1, 12)) ∧
    (∃ op, classify {} "k012tog" = .ok op ∧
      op.remark = some (.unrecognized "k012tog") ∧
      (op.consume, op.produce, op.units) = (1, 1, 1)) := by
  constructor
  · obtain ⟨-, -, -, hread⟩ := classify_by_grammar {} "\u212A12toG  tlB from cn"
    obtain ⟨op, hop, hwritten, -, -, hnone, hcounts, -⟩ :=
      hread fun ds hds => Nat.le_trans hds.length_le (by decide)
    let n : WrittenCount := ⟨'1', ['2'], by decide, List.forall_mem_singleton.2 (by decide +kernel)⟩
    let gap : Gap := ⟨[' ', ' '], List.all_eq_true.1 (by decide)⟩
    have hwrites : Shape.decrease.Writes "\u212A12toG  tlB from cn".toList (.together n) :=
      .decrease ⟨['\u212A'], "k", by decide, by decide⟩ n ⟨['t', 'o', 'G'], by decide⟩
        (some (gap, ⟨['t', 'l', 'B'], "tlb", by decide, by decide⟩))
        (some (.space, ⟨_, .cons ⟨['f', 'r', 'o', 'm'], by decide⟩ .space
          (.word ⟨['c', 'n'], by decide⟩)⟩))
    have hremark := hnone.2 ⟨.decrease, .together n, hwrites, by decide +kernel⟩
    exact ⟨op, hop.trans (hwritten (Halt.neg_lt_of_pos (by decide))), hremark,
      (hcounts hremark _ _ hwrites).trans (by decide +kernel)⟩
  · obtain ⟨-, -, -, hread⟩ := classify_by_grammar {} "k012tog"
    obtain ⟨op, hop, hwritten, -, -, -, -, hguess, hzero⟩ :=
      hread fun ds hds => Nat.le_trans hds.length_le (by decide)
    have hremark := hzero '0' (by decide +kernel) (by decide)
    refine ⟨op, hop.trans (hwritten (Halt.neg_lt_of_pos (by decide))), hremark, hguess ?_⟩
    rw [hremark]
    exact Option.some_ne_none _

end Context

end KnitPattern
