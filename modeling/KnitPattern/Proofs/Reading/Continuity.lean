/-
  The live count along the rows of a reading. Each row starts with the stitches that the row
  before it left, whatever was rejected between the two (`Continues`, kept by every step), and
  each row is the timeline of the operations of one draft, expanded at the count with which
  the row starts (`Row.LaysOut`, `exists_isRowOf`).
-/
import KnitPattern.Proofs.Reading.Run
import Mathlib.Algebra.GroupWithZero.Nat
import Mathlib.Algebra.Ring.Int.Defs

namespace KnitPattern

/-! ## The timeline of a row -/

/-- A row is the timeline of operations: a step for each, a cell for each of its units, and
the stitches at the end are those at the start with the net changes of all, at least none. -/
structure Row.LaysOut (r : Row) (ops : List Operation) : Prop where
  sequence : r.sequence = ops.map fun op => ⟨op.code, op.label, op.units⟩
  one_le_count : ∀ s ∈ r.sequence, 1 ≤ s.count
  expanded : r.expanded = ops.flatMap fun op => List.replicate op.units ⟨op.code, op.label, 1⟩
  total_eq_length : r.total = r.expanded.length
  total_eq_sum : r.total = (r.sequence.map Step.count).sum
  endCount : (r.endCount : Int) =
    max 0 (r.startCount + (ops.map fun op => (op.produce : Int) - op.consume).sum)

theorem Row.laysOut_ofOperations (d : Draft) (ops : List Operation) (start index : Int) :
    (Row.ofOperations d ops start index).LaysOut ops where
  sequence := rfl
  one_le_count := by
    intro s hs
    obtain ⟨op, -, rfl⟩ := List.mem_map.1 hs
    exact op.units_pos
  expanded := by
    unfold Row.expanded Row.ofOperations
    rw [List.flatMap_map]
    rfl
  total_eq_length := (Row.length_expanded _).symm
  total_eq_sum := rfl
  endCount := by
    show ((start + Operation.totalDelta ops).toNat : Int) = _
    rw [Int.toNat_eq_max, Int.max_comm]
    rfl

namespace Progress

variable {ctx : Context} {p q : Progress} {d : Draft} {ds : List Draft}

/-! ## From row to row -/

/-- The live count is what the last row left, and `initial` before the first row. -/
def Continues (initial : Nat) (p : Progress) : Prop :=
  p.live = (p.rows.getLast?.map Row.endCount).getD initial

theorem Continues.step {initial : Nat} (hp : p.Continues initial)
    (h : p.step ctx d = .ok q) : q.Continues initial := by
  obtain ⟨o, -, rfl⟩ := step_eq_ok_iff.1 h
  cases o with
  | row row body remarks =>
    show row.endCount = ((p.rows ++ [row]).getLast?.map Row.endCount).getD initial
    rw [List.getLast?_concat]
    rfl
  | rejected why body => exact hp

theorem Continues.run {initial : Nat} (hp : p.Continues initial)
    (h : p.run ctx ds = .ok q) : q.Continues initial :=
  run_induction (fun _ _ _ hm hstep => Continues.step hm hstep) hp h

/-! ## From a row to its draft -/

/-- The row `r` is of the draft `d`: in the run of `ds` from `p` the draft is reached after
the rows `earlier`, has the body `body` there, and is laid out from the operations of that
body at the count with which the row starts. -/
structure IsRowOf (ctx : Context) (p : Progress) (ds : List Draft) (earlier : List Row)
    (r : Row) (d : Draft) (body : String) (ops : List Operation) : Prop where
  reached : ∃ before after m, ds = before ++ d :: after ∧ p.run ctx before = .ok m ∧
    m.rows = earlier ∧ m.live = r.startCount ∧ d.resolve m.bodies = .ok body
  expanded : ∃ remarks, ctx.expand r.startCount body = .ok ⟨ops, remarks⟩
  named : r.number = d.number ∧ r.label = d.label ∧ r.raw = d.raw
  laysOut : r.LaysOut ops

theorem IsRowOf.cons {m : Progress} {e : Draft} {earlier : List Row} {r : Row} {body : String}
    {ops : List Operation} (hstep : p.step ctx e = .ok m)
    (h : IsRowOf ctx m ds earlier r d body ops) :
    IsRowOf ctx p (e :: ds) earlier r d body ops := by
  obtain ⟨before, after, k, rfl, hrun, hk⟩ := h.reached
  refine ⟨⟨e :: before, after, k, rfl, ?_, hk⟩, h.expanded, h.named, h.laysOut⟩
  exact run_cons_eq_ok_iff.2 ⟨m, hstep, hrun⟩

theorem isRowOf_ofOperations {body : String} {op : Operation} {ops : List Operation}
    {remarks : List Body.Remark} (ds : List Draft) (hfound : d.resolve p.bodies = .ok body)
    (hexp : ctx.expand p.live body = .ok ⟨op :: ops, remarks⟩) :
    IsRowOf ctx p (d :: ds) p.rows (.ofOperations d (op :: ops) p.live p.rows.length) d body
      (op :: ops) :=
  ⟨⟨[], ds, p, rfl, run_nil, rfl, rfl, hfound⟩, ⟨_, hexp⟩, ⟨rfl, rfl, rfl⟩,
    Row.laysOut_ofOperations ..⟩

/-- A step that adds a row adds one of its draft. -/
theorem isRowOf_of_step (ds : List Draft) (h : p.step ctx d = .ok q)
    (hlt : p.rows.length < q.rows.length) :
    ∃ r body ops, q.rows = p.rows ++ [r] ∧ IsRowOf ctx p (d :: ds) p.rows r d body ops := by
  obtain ⟨o, ho, rfl⟩ := step_eq_ok_iff.1 h
  cases ho with
  | unresolved => exact absurd hlt (Nat.lt_irrefl _)
  | overLimit => exact absurd hlt (Nat.lt_irrefl _)
  | empty => exact absurd hlt (Nat.lt_irrefl _)
  | row hfound hexp => exact ⟨_, _, _, rfl, isRowOf_ofOperations ds hfound hexp⟩

/-- A list that goes on after others with a given element. -/
theorem take_getElem_of_prefix {α : Type} {as bs : List α} {a : α} (h : as ++ [a] <+: bs)
    (hlt : as.length < bs.length) : bs.take as.length = as ∧ bs[as.length] = a := by
  obtain ⟨more, rfl⟩ := h
  simp

/-- Every row that a run adds is of a draft of the run. -/
theorem exists_isRowOf (h : p.run ctx ds = .ok q) {i : Nat} (hp : p.rows.length ≤ i)
    (hi : i < q.rows.length) :
    ∃ d body ops, IsRowOf ctx p ds (q.rows.take i) q.rows[i] d body ops := by
  induction ds generalizing p with
  | nil =>
    cases h
    omega
  | cons e ds ih =>
    obtain ⟨m, hstep, hrun⟩ := run_cons_eq_ok_iff.1 h
    rcases Nat.lt_or_ge i m.rows.length with hlt | hge
    · -- the row is the one that the step adds
      obtain ⟨r, body, ops, hm, hr⟩ :=
        isRowOf_of_step ds hstep (Nat.lt_of_le_of_lt hp hlt)
      have hnew := rows_prefix_of_run hrun
      rw [hm] at hlt hnew
      have hlen : i = p.rows.length := by
        rw [List.length_append, List.length_singleton] at hlt
        omega
      subst hlen
      obtain ⟨htake, hget⟩ := take_getElem_of_prefix hnew hi
      rw [htake, hget]
      exact ⟨e, body, ops, hr⟩
    · obtain ⟨d, body, ops, hr⟩ := ih hrun hge
      exact ⟨d, body, ops, hr.cons hstep⟩

/-- The count at the start of a row is what the row before it left. -/
theorem startCount_of_isRowOf {initial : Nat} (hp : p.Continues initial) {rows : List Row}
    {i : Nat} (hi : i < rows.length) {body : String} {ops : List Operation}
    (h : IsRowOf ctx p ds (rows.take i) rows[i] d body ops) :
    rows[i].startCount = ((rows.take i).getLast?.map Row.endCount).getD initial := by
  obtain ⟨before, after, m, -, hrun, hrows, hlive, -⟩ := h.reached
  have hm : m.live = (m.rows.getLast?.map Row.endCount).getD initial := hp.run hrun
  rw [← hlive, hm, hrows]

end Progress

/-! ## Whole patterns -/

namespace Pattern

/-- The rows of a pattern follow one another: the first starts with the given count, at least
one, each other with what the row before it left, and each is the timeline of the operations
of its draft at the count with which it starts. -/
theorem rows_continue {text : String} {settings : Settings} {heuristics : Heuristics}
    {glossary : Option Glossary} {starting : Option Int} {pat : Pattern}
    (h : ofText text settings heuristics glossary starting = .ok pat) :
    (∀ hi : 0 < pat.rows.length,
      pat.rows[0].startCount = max 1 (starting.getD settings.starting)) ∧
    (∀ i (hi : i + 1 < pat.rows.length),
      pat.rows[i + 1].startCount = pat.rows[i].endCount) ∧
    ∃ e, Extraction.ofText text = .ok e ∧
      ∀ i (hi : i < pat.rows.length), ∃ d body ops,
        Progress.IsRowOf (context settings heuristics glossary)
          (start (starting.getD settings.starting) e) (Draft.sort e.drafts)
          (pat.rows.take i) pat.rows[i] d body ops := by
  obtain ⟨e, last, he, hrun, rfl⟩ := ofText_eq_ok_iff.1 h
  have hrow : ∀ i (hi : i < last.rows.length), ∃ d body ops, Progress.IsRowOf
      (context settings heuristics glossary) (start (starting.getD settings.starting) e)
      (Draft.sort e.drafts) (last.rows.take i) last.rows[i] d body ops :=
    fun i hi => Progress.exists_isRowOf hrun (Nat.zero_le i) hi
  have hstart : (start (starting.getD settings.starting) e).Continues
      (max 1 (starting.getD settings.starting)).toNat := rfl
  refine ⟨?_, ?_, e, he, hrow⟩
  · intro hi
    have hi' : 0 < last.rows.length := hi
    obtain ⟨d, body, ops, hr⟩ := hrow 0 hi'
    show last.rows[0].startCount = _
    rw [Progress.startCount_of_isRowOf hstart hi' hr]
    show (((max 1 (starting.getD settings.starting)).toNat : Nat) : Int) = _
    omega
  · intro i hi
    have hi' : i + 1 < last.rows.length := hi
    obtain ⟨d, body, ops, hr⟩ := hrow (i + 1) hi'
    have hlast : (last.rows.take (i + 1)).getLast? = some last.rows[i] := by
      rw [List.take_succ_eq_append_getElem (by omega), List.getLast?_concat]
    show last.rows[i + 1].startCount = last.rows[i].endCount
    rw [Progress.startCount_of_isRowOf hstart hi' hr, hlast]
    rfl

/-- A round that is rejected does not disturb the count between its neighbours. -/
theorem rows_continue_past_rejected :
    ∃ pat, ofText "Rnd 1: k2tog\nRnd 2: see Rnd 9\nRnd 3: k around, yo" {} .bundled none
        (some 3) = .ok pat ∧
      pat.problems = [.round "Rnd 2" (.unresolved 9)] ∧
      pat.rows.map (fun r => (r.startCount, r.endCount)) = [(3, 2), (2, 3)] ∧
      ∀ i (hi : i + 1 < pat.rows.length), pat.rows[i + 1].startCount = pat.rows[i].endCount := by
  have hread : (ofText "Rnd 1: k2tog\nRnd 2: see Rnd 9\nRnd 3: k around, yo" {} .bundled none
      (some 3)).toOption.map (fun pat => (pat.problems,
        pat.rows.map fun r => (r.startCount, r.endCount))) =
      some ([.round "Rnd 2" (.unresolved 9)], [(3, 2), (2, 3)]) := by
    decide +kernel
  cases h : ofText "Rnd 1: k2tog\nRnd 2: see Rnd 9\nRnd 3: k around, yo" {} .bundled none
      (some 3) with
  | error why =>
    rw [h] at hread
    cases hread
  | ok pat =>
    rw [h] at hread
    obtain ⟨hproblems, hrows⟩ := Prod.mk.inj (Option.some.inj hread)
    exact ⟨pat, rfl, hproblems, hrows, (rows_continue h).2.1⟩

end Pattern

end KnitPattern
