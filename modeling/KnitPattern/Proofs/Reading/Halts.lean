/-
  Bad input does not stop a reading. A reading halts only where that is due to a numeral of the
  text that is too long, or to what the text asks for under limits that let it through
  (`due_of_ofText`): the bodies kept for references are bodies of the text and have no digits that
  it does not have, so along a run nothing else can give rise to a halt. All that is wrong with a
  round becomes a problem, and no operation, live count or row is built from numbers that it may
  not have (`Guarded`).
-/
import KnitPattern.Proofs.Body.Halts
import KnitPattern.Proofs.Reading.Run
import KnitPattern.Proofs.Round.Digits
import KnitPattern.Proofs.Round.Order
import KnitPattern.Proofs.Round.Size

namespace KnitPattern

open Text

/-! ## Steps and runs -/

theorem Draft.tooLongIn_of_resolve {d : Draft} {bodies : Bodies} {why : Halt}
    (h : d.resolve bodies = .error (.halted why)) : Numeral.TooLongIn d.body.toList why := by
  unfold resolve at h
  split at h
  · cases h
  · next numeral href =>
    have hnumeral := digitRun_of_reference? href
    rcases bind_eq_error_iff.1 h with h | ⟨target, -, h⟩
    · exact Numeral.tooLongIn_of_read hnumeral (eq_error_of_liftM h)
    · split at h <;> cases h

/-- The body is asked for, has no digits that the text does not have, and is no longer. -/
structure Body.Within (text : List Char) (asks : String → Prop) (body : String) : Prop where
  asked : asks body
  digits : DigitsWithin body.toList text
  length : body.toList.length ≤ text.length

/-- The most stitches that are counted in a text of that size, read from a starting count: a round
adds no more than the limit times itself, and a body covers no more than the limit for each copy
of each of its tokens. -/
def Limits.most (limits : Limits) (start : Int) (size : Nat) : Int :=
  start + (size + 1) * (limits.stitches * limits.stitches + limits.stitches * limits.repeats)

namespace Limits

variable {limits : Limits}

theorem square_nonneg (limits : Limits) (hstitches : 1 ≤ limits.stitches) :
    0 ≤ limits.stitches * limits.stitches :=
  Int.mul_nonneg (by omega) (by omega)

theorem cells_nonneg (limits : Limits) (hrepeats : 1 ≤ limits.repeats)
    (hstitches : 1 ≤ limits.stitches) : 0 ≤ limits.stitches * limits.repeats :=
  Int.mul_nonneg (by omega) (by omega)

theorem live_le_most (hrepeats : 1 ≤ limits.repeats) (hstitches : 1 ≤ limits.stitches)
    {rounds size : Nat} (hrounds : rounds ≤ size + 1) (start : Int) :
    start + rounds * (limits.stitches * limits.stitches) ≤ limits.most start size := by
  have hcells : 0 ≤ ((size : Int) + 1) * (limits.stitches * limits.repeats) :=
    Int.mul_nonneg (by omega) (limits.cells_nonneg hrepeats hstitches)
  have hlive : (rounds : Int) * (limits.stitches * limits.stitches) ≤ (size + 1) * _ :=
    Int.mul_le_mul_of_nonneg_right (by omega) (limits.square_nonneg hstitches)
  rw [most, Int.mul_add]
  omega

theorem cells_le_most (hstitches : 1 ≤ limits.stitches) {start : Int} (hstart : 0 ≤ start)
    (size : Nat) :
    (size + 1) * (limits.stitches * limits.repeats) ≤ limits.most start size := by
  have hlive : 0 ≤ ((size : Int) + 1) * (limits.stitches * limits.stitches) :=
    Int.mul_nonneg (by omega) (limits.square_nonneg hstitches)
  rw [most, Int.mul_add]
  omega

end Limits

namespace Progress

variable {ctx : Context} {p q : Progress} {d : Draft} {ds : List Draft} {why : Halt}
  {text : List Char} {asks : String → Prop} {most : Int}

/-- The bodies kept for references are within the text. -/
def Within (text : List Char) (asks : String → Prop) (p : Progress) : Prop :=
  ∀ n body, p.bodies.get? n = some body → Body.Within text asks body

theorem Within.of_resolve (hp : p.Within text asks) (hd : Body.Within text asks d.body) {body : String}
    (h : d.resolve p.bodies = .ok body) : Body.Within text asks body := by
  rcases Draft.plain_or_get?_of_resolve h with ⟨-, rfl⟩ | ⟨n, hget⟩
  · exact hd
  · exact hp n body hget

theorem Within.step (hp : p.Within text asks) (hd : Body.Within text asks d.body)
    (h : p.step ctx d = .ok q) : q.Within text asks :=
  get?_of_step hp (fun _ => hp.of_resolve hd) h

section Limits

variable (hrepeats : 1 ≤ ctx.limits.repeats) (hstitches : 1 ≤ ctx.limits.stitches)
include hrepeats hstitches

/-- A round adds no more stitches than the limit times itself. -/
theorem live_le_of_step (h : p.step ctx d = .ok q) :
    (q.live : Int) ≤ p.live + ctx.limits.stitches * ctx.limits.stitches := by
  have hsame : (p.live : Int) ≤ p.live + ctx.limits.stitches * ctx.limits.stitches :=
    Int.le_add_of_nonneg_right (ctx.limits.square_nonneg hstitches)
  obtain ⟨o, ho, rfl⟩ := step_eq_ok_iff.1 h
  cases ho with
  | unresolved => exact hsame
  | overLimit => exact hsame
  | empty => exact hsame
  | @row _ op ops _ _ hexp =>
    have hdelta : Operation.totalDelta (op :: ops) ≤ _ :=
      Context.totalDelta_of_expand hrepeats hstitches hexp
    show (((p.live + Operation.totalDelta (op :: ops)).toNat : Nat) : Int) ≤ _
    omega

variable
  (hmost : (text.length + 1) * (ctx.limits.stitches * ctx.limits.repeats) ≤ most)
include hmost

theorem due_of_step (hp : p.Within text asks) (hd : Body.Within text asks d.body) (hlive : p.live ≤ most)
    (h : p.step ctx d = .error why) : why.Due text asks ctx.limits most := by
  rcases step_eq_error_iff.1 h with h | ⟨body, hfound, h⟩
  · exact .numeral ((Draft.tooLongIn_of_resolve h).of_within hd.digits)
  · have hbody := hp.of_resolve hd hfound
    have hsize : (body.toList.length : Int) + 1 ≤ text.length + 1 := by
      have := hbody.length
      omega
    have hcells := Int.le_trans (Int.mul_le_mul_of_nonneg_right hsize
      (ctx.limits.cells_nonneg hrepeats hstitches)) hmost
    have hdue := Context.due_of_expand hrepeats hstitches hlive hbody.asked hcells h
    exact hdue.of_within hbody.digits

/-- A run is halted only where that is due. -/
theorem due_of_run (hp : p.Within text asks) (hds : ∀ d ∈ ds, Body.Within text asks d.body)
    (hlive : p.live + ds.length * (ctx.limits.stitches * ctx.limits.stitches) ≤ most)
    (h : p.run ctx ds = .error why) : why.Due text asks ctx.limits most := by
  have hsquare := ctx.limits.square_nonneg hstitches
  -- the bound leaves room for what each of the rounds that are left may add
  induction ds generalizing p with
  | nil => cases h
  | cons d ds ih =>
    obtain ⟨hd, hds⟩ := List.forall_mem_cons.1 hds
    have hrest : 0 ≤ (ds.length : Int) * (ctx.limits.stitches * ctx.limits.stitches) :=
      Int.mul_nonneg (Int.natCast_nonneg _) hsquare
    rw [List.length_cons, Int.natCast_add, Int.add_mul, Int.natCast_one, Int.one_mul] at hlive
    rw [run_cons] at h
    rcases bind_eq_error_iff.1 h with h | ⟨q, hstep, h⟩
    · exact due_of_step hrepeats hstitches hmost hp hd (by omega) h
    · have hq := live_le_of_step hrepeats hstitches hstep
      exact ih (hp.step hd hstep) hds (by omega) h

end Limits

end Progress

/-! ## What is guarded against -/

/-- A row with a count that is not negative at its start and with steps, none of them empty. -/
structure Row.WellFormed (r : Row) : Prop where
  start : 0 ≤ r.startCount
  steps : r.sequence ≠ []
  counts : ∀ s ∈ r.sequence, 1 ≤ s.count

theorem Progress.wellFormed_of_run {ctx : Context} {p q : Progress} {ds : List Draft}
    (hp : ∀ r ∈ p.rows, r.WellFormed) (h : p.run ctx ds = .ok q) :
    ∀ r ∈ q.rows, r.WellFormed := by
  refine run_induction (P := fun m => ∀ r ∈ m.rows, r.WellFormed) ?_ hp h
  intro m d n hm hstep
  obtain ⟨o, ho, rfl⟩ := step_eq_ok_iff.1 hstep
  cases ho with
  | unresolved => exact hm
  | overLimit => exact hm
  | empty => exact hm
  | row =>
    refine List.forall_mem_append.2 ⟨hm, List.forall_mem_singleton.2 ⟨?_, ?_, ?_⟩⟩
    · exact Int.natCast_nonneg m.live
    · exact List.cons_ne_nil _ _
    · intro s hs
      obtain ⟨op, -, rfl⟩ := List.mem_map.1 hs
      exact op.units_pos

/-- What costs a round its row becomes a problem of the pattern, and the numbers that operations
and live counts are built from are accepted. -/
structure Context.Guarded (ctx : Context) : Prop where
  /-- A draft that refers to no round read before it. -/
  unresolved : ∀ p d why, d.resolve p.bodies = .error (.rejected why) →
    ∃ q, Progress.step ctx p d = .ok q ∧ q.live = p.live ∧ q.rows = p.rows ∧
      q.problems = p.problems ++ [.round d.label why]
  /-- A draft that covers too many stitches. -/
  overLimit : ∀ p d body why, d.resolve p.bodies = .ok body →
    ctx.expand p.live body = .error (.rejected why) →
      ∃ q, Progress.step ctx p d = .ok q ∧ q.live = p.live ∧ q.rows = p.rows ∧
        q.problems = p.problems ++ [.round d.label why]
  /-- The operation to knit around, at any live count. -/
  around : ∀ live, Operation.checked "k around" (ctx.label "k around") (max 1 live) (max 1 live)
    (max 1 live) none = .ok (ctx.aroundOperation live)
  /-- The operation of a token that has no shape or covers too many stitches. -/
  guess : ∀ token remark, Operation.checked token (ctx.label token) 1 1 1 (some remark) =
    .ok (.guess token (ctx.label token) remark)
  /-- The operation of a token of a shape, with any counts that the shape gives. -/
  shaped : ∀ token (c : Stitch.Counts), c.widest ≤ ctx.limits.stitches →
    Operation.checked token (ctx.label token) c.consume c.produce c.units none =
      .ok (ctx.limited token c)
  /-- The live count at the start, whatever count is given. -/
  starts : ∀ given e, Progress.live? (max 1 given) = some (Pattern.start given e).live
  /-- The live count at the end of a row. -/
  ends : ∀ d ops start index, Progress.live? (max 0 (start + Operation.totalDelta ops)) =
    some (Row.ofOperations d ops start index).endCount

theorem Progress.live?_of_nonneg {n : Int} (h : 0 ≤ n) : live? n = some n.toNat :=
  if_neg (Int.not_lt.2 h)

theorem Operation.checked_of_pos {code label : String} {consume produce units : Int}
    {remark : Option Remark} (hc : 0 ≤ consume) (hp : 0 ≤ produce) (hu : 1 ≤ units) :
    checked code label consume produce units remark =
      .ok { code, label, consume := consume.toNat, produce := produce.toNat,
            units := units.toNat, remark } := by
  rw [checked, if_neg (Int.not_lt.2 hc), if_neg (Int.not_lt.2 hp), dif_neg (Int.not_lt.2 hu)]

theorem Context.guarded (ctx : Context) : ctx.Guarded where
  unresolved p d why h :=
    ⟨_, Progress.step_eq_ok_iff.2 ⟨_, .unresolved h, rfl⟩, rfl, rfl, rfl⟩
  overLimit p d body why hfound h :=
    ⟨_, Progress.step_eq_ok_iff.2 ⟨_, .overLimit hfound h, rfl⟩, rfl, rfl, rfl⟩
  around live := by
    have hmax : 1 ≤ max 1 live := by omega
    exact Operation.checked_of_pos (by omega) (by omega) hmax
  guess token remark := rfl
  shaped token c hwidest := by
    rw [limited, if_neg (Int.not_lt.2 hwidest)]
    exact Operation.checked_of_pos (Int.natCast_nonneg _) (Int.natCast_nonneg _)
      (Int.ofNat_le.2 c.units_pos)
  starts given e := Progress.live?_of_nonneg (by omega)
  ends d ops start index := by
    rw [Progress.live?_of_nonneg (by omega)]
    refine congrArg some ?_
    show (max 0 (start + Operation.totalDelta ops)).toNat =
      (start + Operation.totalDelta ops).toNat
    omega

/-! ## Whole patterns -/

namespace Pattern

variable {text : String} {settings : Settings} {heuristics : Heuristics}
  {glossary : Option Glossary} {starting : Option Int}

/-- The starting count of a reading. -/
def startCount (settings : Settings) (starting : Option Int) : Int :=
  max 1 (starting.getD settings.starting)

/-- The text has a round with that body. -/
def HasBody (text body : String) : Prop :=
  ∃ e, Extraction.ofText text = .ok e ∧ ∃ d ∈ e.drafts, d.body = body

theorem due_of_ofText {why : Halt}
    (h : ofText text settings heuristics glossary starting = .error why) :
    why.Due text.toList (HasBody text) settings.limits
      (settings.limits.most (startCount settings starting) text.toList.length) := by
  have hrepeats := settings.one_le_repeats
  have hstitches := settings.one_le_stitches
  have hstart : 1 ≤ startCount settings starting := Int.le_max_left _ _
  rcases bind_eq_error_iff.1 h with h | ⟨e, he, h⟩
  · exact .numeral (Extraction.tooLongIn_of_ofText h)
  rcases bind_eq_error_iff.1 h with h | ⟨_, -, h⟩
  · refine Progress.due_of_run hrepeats hstitches
      (Limits.cells_le_most hstitches (by omega) _) ?_ ?_ ?_ h
    · intro n body hget
      cases hget
    · intro d hd
      have hd := (Draft.sort_perm e.drafts).mem_iff.1 hd
      exact ⟨⟨e, he, d, hd, rfl⟩, Extraction.within_of_mem_ofText he hd,
        Extraction.length_body_le he hd⟩
    · have hrounds : (Draft.sort e.drafts).length ≤ text.toList.length + 1 := by
        rw [(Draft.sort_perm e.drafts).length_eq]
        exact Extraction.length_drafts_le he
      have hlive : (((startCount settings starting).toNat : Nat) : Int) = _ :=
        Int.toNat_of_nonneg (by omega)
      show (((startCount settings starting).toNat : Nat) : Int) + _ ≤ _
      rw [hlive]
      exact Limits.live_le_most hrepeats hstitches hrounds _
  · cases h

/-- A reading halts only where that is due, so it gives a pattern for every text without an
overlong run of digits, unless the limits let through more copies or a larger block than there can
be and the text asks for them, or a number cannot be written; what is wrong with a round becomes a
problem, and all that is built on the way is well formed. -/
theorem halts_only_when_due (text : String) (settings : Settings) (heuristics : Heuristics)
    (glossary : Option Glossary) (starting : Option Int) :
    (∀ why, ofText text settings heuristics glossary starting = .error why →
      why.Due text.toList (HasBody text) settings.limits
        (settings.limits.most (startCount settings starting) text.toList.length)) ∧
    ((∀ ds, DigitRun ds text.toList → ds.length ≤ Halt.digitLimit) →
      (Nat.pow 2 63 ≤ settings.limits.repeats →
        ∀ ds, DigitRun ds text.toList → Numeral.value ds < Nat.pow 2 63) →
      (Nat.pow 2 60 ≤ settings.limits.stitches →
        ∀ body, HasBody text body → ¬ Body.Overfull settings.limits body) →
      ofText text settings heuristics glossary starting ≠ .error .numberTooLong →
      ∃ pat, ofText text settings heuristics glossary starting = .ok pat) ∧
    (∀ pat, ofText text settings heuristics glossary starting = .ok pat →
      ∀ r ∈ pat.rows, r.WellFormed) ∧
    (context settings heuristics glossary).Guarded := by
  refine ⟨fun _ => due_of_ofText, ?_, ?_, Context.guarded _⟩
  · intro hruns hcopies hroom hwriting
    cases h : ofText text settings heuristics glossary starting with
    | ok pat => exact ⟨pat, rfl⟩
    | error why =>
      cases due_of_ofText h with
      | numeral hlong =>
        obtain ⟨ds, hds, hlen, -⟩ := hlong
        exact absurd (hruns ds hds) (Nat.not_le.2 hlen)
      | writing => exact absurd h hwriting
      | copies hds hvalue hlimit => exact absurd (hcopies hlimit _ hds) (Nat.not_lt.2 hvalue)
      | operations hbody hfull hlimit => exact absurd hfull (hroom hlimit _ hbody)
  · intro pat h
    obtain ⟨e, last, -, hrun, rfl⟩ := ofText_eq_ok_iff.1 h
    exact Progress.wellFormed_of_run (List.forall_mem_nil _) hrun

/-- A text with a stray line, an unknown instruction and a reference to no round, under a limit on
stitches that lets through more than one list holds, read without looking at what becomes of it:
the text is too short to ask for so much. -/
theorem halts_only_when_due_of_bad_text :
    let text := "k2\nRnd 1: *k1, zz* rep from * 3 times\nRnd 2: see Rnd 7"
    let settings : Settings := { limits := ⟨10000, 2305843009213693952⟩ }
    Nat.pow 2 60 ≤ settings.limits.stitches ∧
      ∃ pat, ofText text settings = .ok pat ∧ ∀ r ∈ pat.rows, r.WellFormed := by
  intro text settings
  obtain ⟨hdue, hreads, hrows, -⟩ := halts_only_when_due text settings .bundled none none
  have hruns : ∀ ds, DigitRun ds text.toList → ds.length ≤ Halt.digitLimit :=
    fun ds hds => Nat.le_trans hds.length_le (by decide)
  have hcopies : ¬ (Nat.pow 2 63 : Int) ≤ settings.limits.repeats := by decide
  have hroom : ∀ body, HasBody text body → ¬ Body.Overfull settings.limits body := by
    rintro _ ⟨e, he, d, hd, rfl⟩ hfull
    have hmany := hfull.le_length (by decide)
    have hlength : (d.body.toList.length : Int) + 1 ≤ 61 := by
      have htext : text.toList.length ≤ 60 := by decide
      have hbody := Extraction.length_body_le he hd
      omega
    have hfew := Int.mul_le_mul_of_nonneg_right hlength (by decide : 0 ≤ settings.limits.repeats)
    exact absurd (Int.le_trans hmany hfew) (by decide)
  obtain ⟨pat, hpat⟩ := hreads hruns (absurd · hcopies) (fun _ => hroom) fun h => by
    cases hdue _ h with
    | numeral hlong =>
      obtain ⟨ds, hds, hlen, -⟩ := hlong
      exact absurd (hruns ds hds) (Nat.not_le.2 hlen)
    | writing hmost => exact absurd hmost (by decide +kernel)
  exact ⟨by decide, pat, hpat, hrows pat hpat⟩

/-- A text with short numerals only is halted where the limit on repeats lets through copies that
cannot be counted, though there is nothing to copy. -/
theorem halts_of_uncountable_copies :
    let text := "Rnd 1: *,* rep from * 9223372036854775808 times"
    (∀ ds, DigitRun ds text.toList → ds.length ≤ Halt.digitLimit) ∧
      ofText text { limits := ⟨9223372036854775808, 10000⟩ } = .error .tooManyCopies := by
  refine ⟨fun ds hds => Nat.le_trans hds.length_le (by decide), ?_⟩
  have h : (match ofText "Rnd 1: *,* rep from * 9223372036854775808 times"
      { limits := ⟨9223372036854775808, 10000⟩ } with
    | .error why => some why
    | .ok _ => none) = some .tooManyCopies := by decide +kernel
  split at h
  · next why hwhy => rw [hwhy, Option.some.inj h]
  · cases h

end Pattern

end KnitPattern
