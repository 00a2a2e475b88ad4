/-
  References along a reading. The bodies kept for references hold no reference themselves
  (`Bodies.Plain`, kept by every step), so a chain of references is resolved by one look-up.
  What is looked up is the body of the last draft of that number that was itself found
  (`get?_bodies`), and a list in which every reference is written out reads like the list it
  came from (`run_inlined`).
-/
import KnitPattern.Proofs.Reading.Run
import KnitPattern.Proofs.Round.Order

namespace KnitPattern

/-- No body is a reference. -/
def Bodies.Plain (bodies : Bodies) : Prop :=
  ∀ n body, bodies.get? n = some body → Draft.reference? body = none

theorem Bodies.Plain.of_resolve {bodies : Bodies} (h : bodies.Plain) {d : Draft}
    {body : String} (hfound : d.resolve bodies = .ok body) :
    Draft.reference? body = none := by
  rcases Draft.plain_or_get?_of_resolve hfound with ⟨hplain, rfl⟩ | ⟨n, hget⟩
  · exact hplain
  · exact h n body hget

/-! ## A reference written out -/

namespace Draft

/-- A draft with the body it was found to have in place of a reference. -/
def inline (d : Draft) (found : Option String) : Draft :=
  if (reference? d.body).isSome then { d with body := found.getD d.body } else d

theorem inline_none (d : Draft) : d.inline none = d := by
  unfold inline
  split <;> rfl

theorem inline_of_resolve {bodies : Bodies} {d : Draft} {body : String}
    (hfound : d.resolve bodies = .ok body) : d.inline (some body) = { d with body } := by
  unfold inline
  split
  · rfl
  · next hnone =>
    have href : reference? d.body = none := Option.not_isSome_iff_eq_none.1 hnone
    rw [resolve_of_plain bodies href] at hfound
    rw [← Except.ok.inj hfound]

/-- What was found in place of a reference is found there again. -/
theorem resolve_inline {bodies : Bodies} (hplain : bodies.Plain) (d : Draft) :
    (d.inline (d.resolve bodies).toOption).resolve bodies = d.resolve bodies := by
  cases hfound : d.resolve bodies with
  | error stop =>
    show (d.inline none).resolve bodies = _
    rw [inline_none, hfound]
  | ok body =>
    show (d.inline (some body)).resolve bodies = _
    rw [inline_of_resolve hfound]
    exact resolve_of_plain bodies (hplain.of_resolve hfound)

end Draft

namespace Progress

variable {ctx : Context} {p q : Progress} {d : Draft} {ds : List Draft}

/-! ## The bodies kept for references -/

theorem plain_of_step (hp : p.bodies.Plain) (h : p.step ctx d = .ok q) : q.bodies.Plain :=
  get?_of_step hp (fun _ hfound => hp.of_resolve hfound) h

theorem plain_of_run (hp : p.bodies.Plain) (h : p.run ctx ds = .ok q) : q.bodies.Plain :=
  run_induction (P := fun m => m.bodies.Plain) (fun _ _ _ hm hs => plain_of_step hm hs) hp h

/-- A step keeps the body of its draft, if that was found, and no other. -/
theorem get?_bodies_of_step (h : p.step ctx d = .ok q) (n : Int) :
    q.bodies.get? n =
      (if d.number = n then (d.resolve p.bodies).toOption else none).or (p.bodies.get? n) := by
  have hput : ∀ body, d.resolve p.bodies = .ok body →
      (p.bodies.put d.number body).get? n =
        (if d.number = n then (d.resolve p.bodies).toOption else none).or
          (p.bodies.get? n) := by
    intro body hfound
    rw [Table.get?_put, hfound]
    by_cases hn : d.number = n
    · rw [if_pos hn, if_pos (beq_iff_eq.2 hn.symm)]
      rfl
    · rw [if_neg hn, if_neg fun hb => hn (beq_iff_eq.1 hb).symm]
      rfl
  obtain ⟨o, ho, rfl⟩ := step_eq_ok_iff.1 h
  cases ho with
  | unresolved hfound =>
    rw [hfound]
    show p.bodies.get? n = _
    split <;> rfl
  | overLimit hfound => exact hput _ hfound
  | empty hfound => exact hput _ hfound
  | row hfound => exact hput _ hfound

/-! ## What the drafts of a run were found to say -/

/-- The drafts of a list, each with the body that a run finds it to have, if it finds one;
the draft that ends the run has none, nor have those after it. -/
def found (ctx : Context) : Progress → List Draft → List (Draft × Option String)
  | _, [] => []
  | p, d :: ds =>
    match p.step ctx d with
    | .ok q => (d, (d.resolve p.bodies).toOption) :: found ctx q ds
    | .error _ => (d :: ds).map fun d => (d, none)

/-- The body of the last draft with a number, among drafts with a body. -/
def lastBody (n : Int) (fs : List (Draft × Option String)) : Option String :=
  (fs.filterMap fun f => if f.1.number = n then f.2 else none).getLast?

/-- The drafts of a list, with every reference that a run resolves written out. -/
def inlined (ctx : Context) (p : Progress) (ds : List Draft) : List Draft :=
  (found ctx p ds).map fun f => f.1.inline f.2

theorem found_cons (h : p.step ctx d = .ok q) :
    found ctx p (d :: ds) = (d, (d.resolve p.bodies).toOption) :: found ctx q ds := by
  rw [found, h]

theorem map_fst_found (ctx : Context) (p : Progress) (ds : List Draft) :
    (found ctx p ds).map Prod.fst = ds := by
  induction ds generalizing p with
  | nil => rfl
  | cons d ds ih =>
    unfold found
    split
    · rw [List.map_cons, ih]
    · rw [List.map_map]
      exact List.map_id _

theorem mem_of_mem_found {f : Draft × Option String} (h : f ∈ found ctx p ds) : f.1 ∈ ds := by
  have hmem : f.1 ∈ (found ctx p ds).map Prod.fst := List.mem_map_of_mem h
  rwa [map_fst_found] at hmem

theorem lastBody_cons (n : Int) (f : Draft × Option String)
    (fs : List (Draft × Option String)) :
    lastBody n (f :: fs) =
      (lastBody n fs).or (if f.1.number = n then f.2 else none) := by
  unfold lastBody
  rw [List.filterMap_cons]
  cases (if f.1.number = n then f.2 else none) with
  | none => rw [Option.or_none]
  | some body =>
    rw [List.getLast?_cons]
    cases (fs.filterMap fun f => if f.1.number = n then f.2 else none).getLast? <;> rfl

theorem lastBody_eq_none_iff {n : Int} {fs : List (Draft × Option String)} :
    lastBody n fs = none ↔ ∀ f ∈ fs, f.1.number = n → f.2 = none := by
  unfold lastBody
  rw [List.getLast?_eq_none_iff, List.filterMap_eq_nil_iff]
  refine forall₂_congr fun f _ => ?_
  split
  · next hn => exact ⟨fun h _ => h, fun h => h hn⟩
  · next hn => exact ⟨fun _ h => absurd h hn, fun _ => rfl⟩

/-- After a run, a number stands for the body of its last draft that was found, and before
any for the body it stood for at the beginning. -/
theorem get?_bodies (h : p.run ctx ds = .ok q) (n : Int) :
    q.bodies.get? n = (lastBody n (found ctx p ds)).or (p.bodies.get? n) := by
  induction ds generalizing p with
  | nil =>
    cases h
    rfl
  | cons d ds ih =>
    obtain ⟨m, hstep, hrun⟩ := run_cons_eq_ok_iff.1 h
    rw [found_cons hstep, lastBody_cons, Option.or_assoc, ih hrun, get?_bodies_of_step hstep]

/-! ## Reading with the references written out -/

theorem step_inline (hp : p.bodies.Plain) (d : Draft) :
    p.step ctx (d.inline (d.resolve p.bodies).toOption) = p.step ctx d := by
  -- the two drafts differ in nothing but the body, and that is found alike
  have hsame : ∃ body, d.inline (d.resolve p.bodies).toOption = { d with body } := by
    unfold Draft.inline
    split
    · exact ⟨_, rfl⟩
    · exact ⟨d.body, rfl⟩
  obtain ⟨body, hbody⟩ := hsame
  have hfound := Draft.resolve_inline hp d
  rw [hbody] at hfound ⊢
  have houtcome : p.outcome ctx { d with body } = p.outcome ctx d := by
    unfold outcome Context.outcome
    rw [hfound]
    rfl
  have hadd : ∀ o, p.add { d with body } o = p.add d o := by
    intro o
    cases o <;> rfl
  unfold step
  rw [houtcome]
  simp only [hadd]

theorem run_inlined (hp : p.bodies.Plain) (ds : List Draft) :
    p.run ctx (inlined ctx p ds) = p.run ctx ds := by
  induction ds generalizing p with
  | nil => rfl
  | cons d ds ih =>
    cases hstep : p.step ctx d with
    | error why =>
      have hkeep : inlined ctx p (d :: ds) = d :: ds := by
        unfold inlined found
        rw [hstep, List.map_map]
        exact (List.map_congr_left fun e _ => e.inline_none).trans (List.map_id _)
      rw [hkeep]
    | ok m =>
      have hhead : inlined ctx p (d :: ds) =
          d.inline (d.resolve p.bodies).toOption :: inlined ctx m ds := by
        unfold inlined
        rw [found_cons hstep, List.map_cons]
      rw [hhead, run_cons, run_cons, step_inline hp, hstep]
      exact ih (plain_of_step hp hstep)

/-! ## References at a point of a run -/

theorem outcome_of_reference {numeral : List Char} (href : Draft.reference? d.body = some numeral)
    (hlen : numeral.length ≤ Halt.digitLimit) :
    p.outcome ctx d = match p.bodies.get? (Numeral.value numeral : Int) with
      | some body => ctx.outcomeOfBody p.live p.rows.length d body
      | none => .ok (.rejected (.unresolved (Numeral.value numeral)) none) := by
  unfold outcome Context.outcome
  rw [Draft.resolve_of_reference p.bodies href hlen]
  cases p.bodies.get? (Numeral.value numeral : Int) <;> rfl

/-- A draft whose body is found is not rejected as a reference. -/
theorem outcomeOfBody_ne_unresolved (live index : Int) (body : String) (target : Nat) :
    ctx.outcomeOfBody live index d body ≠ .ok (.rejected (.unresolved target) none) := by
  unfold Context.outcomeOfBody
  split <;> simp

/-- After a run, a reference is rejected if its number stands for no body from the beginning and
no draft of the run with that number was found, and only then. -/
theorem outcome_eq_unresolved_iff {numeral : List Char} (h : p.run ctx ds = .ok q)
    (href : Draft.reference? d.body = some numeral) (hlen : numeral.length ≤ Halt.digitLimit) :
    q.outcome ctx d = .ok (.rejected (.unresolved (Numeral.value numeral)) none) ↔
      p.bodies.get? (Numeral.value numeral : Int) = none ∧
        ∀ f ∈ found ctx p ds, f.1.number = Numeral.value numeral → f.2 = none := by
  have hget := get?_bodies h (Numeral.value numeral)
  have hout : q.outcome ctx d = _ := outcome_of_reference href hlen
  rw [← lastBody_eq_none_iff, and_comm, ← Option.or_eq_none_iff, ← hget, hout]
  cases q.bodies.get? (Numeral.value numeral : Int) with
  | none => exact ⟨fun _ => rfl, fun _ => rfl⟩
  | some body =>
    exact ⟨fun h => absurd h (outcomeOfBody_ne_unresolved _ _ _ _), nofun⟩

/-- After a run, a reference is else read as the body of the last draft of its number. -/
theorem outcome_of_lastBody {numeral : List Char} {body : String} (h : p.run ctx ds = .ok q)
    (href : Draft.reference? d.body = some numeral) (hlen : numeral.length ≤ Halt.digitLimit)
    (hbody : (lastBody (Numeral.value numeral) (found ctx p ds)).or
      (p.bodies.get? (Numeral.value numeral : Int)) = some body) :
    d.resolve q.bodies = .ok body ∧
      q.outcome ctx d = ctx.outcomeOfBody q.live q.rows.length d body := by
  have hget := get?_bodies h (Numeral.value numeral)
  have hout : q.outcome ctx d = _ := outcome_of_reference href hlen
  have hres := Draft.resolve_of_reference q.bodies href hlen
  rw [hget, hbody] at hout hres
  exact ⟨hres, hout⟩

/-! ## References in a whole pattern -/

theorem mem_problems_of_unresolved {ds es : List Draft} {m : Progress} {why : Rejection}
    (hrun : p.run ctx (ds ++ d :: es) = .ok q) (hm : p.run ctx ds = .ok m)
    (hwhy : m.outcome ctx d = .ok (.rejected why none)) : .round d.label why ∈ q.problems := by
  obtain ⟨m', hm', hrest⟩ := run_append_eq_ok_iff.1 hrun
  cases hm.symm.trans hm'
  obtain ⟨k, hk, hafter⟩ := run_cons_eq_ok_iff.1 hrest
  obtain ⟨o, ho, rfl⟩ := step_eq_ok_iff.1 hk
  cases (Context.outcome_eq_ok_iff.2 ho).symm.trans hwhy
  refine (problems_prefix_of_run hafter).subset ?_
  exact List.mem_append_right _ (List.mem_singleton.2 rfl)

/-- In a run over drafts in ascending order, from no bodies, a reference to a larger number
is not resolved. -/
theorem outcome_of_forward_reference {before after : List Draft} {numeral : List Char}
    {m : Progress} (hp : p.bodies = []) (hm : p.run ctx before = .ok m)
    (hsorted : (before ++ d :: after).Pairwise fun a b => a.number ≤ b.number)
    (href : Draft.reference? d.body = some numeral) (hlen : numeral.length ≤ Halt.digitLimit)
    (hlt : d.number < Numeral.value numeral) :
    m.outcome ctx d = .ok (.rejected (.unresolved (Numeral.value numeral)) none) := by
  have hnone : lastBody (Numeral.value numeral) (found ctx p before) = none := by
    refine lastBody_eq_none_iff.2 fun f hf hn => ?_
    have hle : f.1.number ≤ d.number :=
      (List.pairwise_append.1 hsorted).2.2 f.1 (mem_of_mem_found hf) d (List.mem_cons_self ..)
    omega
  have hget : m.bodies.get? (Numeral.value numeral : Int) = none := by
    rw [get?_bodies hm, hnone, hp]
    rfl
  rw [outcome_of_reference href hlen, hget]

/-- The numeral of a draft that a run gets past is not too long. -/
theorem length_le_of_run {ds : List Draft} {numeral : List Char} (h : p.run ctx ds = .ok q)
    (hd : d ∈ ds) (href : Draft.reference? d.body = some numeral) :
    numeral.length ≤ Halt.digitLimit := by
  obtain ⟨before, after, rfl⟩ := List.append_of_mem hd
  obtain ⟨m, -, hrest⟩ := run_append_eq_ok_iff.1 h
  obtain ⟨k, hk, -⟩ := run_cons_eq_ok_iff.1 hrest
  obtain ⟨o, ho, -⟩ := step_eq_ok_iff.1 hk
  by_contra hlen
  have hlong := Draft.resolve_of_long m.bodies href hlen
  have hout := Context.outcome_eq_ok_iff.2 ho
  rw [Context.outcome, hlong] at hout
  cases hout

/-- References in a reading that starts with none among its bodies. None is ever kept. A
reference is rejected exactly when its number stands for no body at the beginning and no
draft of that number was found before it, and is else read as the body of the last such
draft. Writing out what is resolved changes nothing. In a whole pattern, a reference to a
larger number is rejected. -/
theorem references_resolve (ctx : Context) (p : Progress) (hp : p.bodies.Plain) :
    (∀ ds q, p.run ctx ds = .ok q → q.bodies.Plain) ∧
    (∀ ds q (d : Draft) numeral, p.run ctx ds = .ok q →
      Draft.reference? d.body = some numeral →
      numeral.length ≤ Halt.digitLimit →
      (q.outcome ctx d = .ok (.rejected (.unresolved (Numeral.value numeral)) none) ↔
        p.bodies.get? (Numeral.value numeral : Int) = none ∧
        ∀ f ∈ found ctx p ds, f.1.number = Numeral.value numeral → f.2 = none) ∧
      ∀ body, (lastBody (Numeral.value numeral) (found ctx p ds)).or
          (p.bodies.get? (Numeral.value numeral : Int)) = some body →
        d.resolve q.bodies = .ok body ∧
        q.outcome ctx d = ctx.outcomeOfBody q.live q.rows.length d body) ∧
    (∀ ds, p.run ctx (inlined ctx p ds) = p.run ctx ds) ∧
    (∀ text settings heuristics glossary starting pat e,
      Pattern.ofText text settings heuristics glossary starting = .ok pat →
      Extraction.ofText text = .ok e →
      ∀ before (d : Draft) after numeral, Draft.sort e.drafts = before ++ d :: after →
        Draft.reference? d.body = some numeral → d.number < Numeral.value numeral →
        .round d.label (.unresolved (Numeral.value numeral)) ∈ pat.problems ∧
        ∃ m, (Pattern.start (starting.getD settings.starting) e).run
            (Pattern.context settings heuristics glossary) before = .ok m ∧
          m.outcome (Pattern.context settings heuristics glossary) d =
            .ok (.rejected (.unresolved (Numeral.value numeral)) none)) := by
  refine ⟨fun ds q h => plain_of_run hp h, ?_, fun ds => run_inlined hp ds, ?_⟩
  · intro ds q d numeral h href hlen
    exact ⟨outcome_eq_unresolved_iff h href hlen,
      fun body hbody => outcome_of_lastBody h href hlen hbody⟩
  · intro text settings heuristics glossary starting pat e h he before d after numeral hsort
      href hlt
    obtain ⟨e', last, he', hrun, rfl⟩ := Pattern.ofText_eq_ok_iff.1 h
    cases he.symm.trans he'
    have hsorted := Draft.pairwise_sort e.drafts
    rw [hsort] at hrun hsorted
    have hlen := length_le_of_run hrun (List.mem_append_right _ (List.mem_cons_self ..)) href
    obtain ⟨m, hm, -⟩ := run_append_eq_ok_iff.1 hrun
    have hout := outcome_of_forward_reference rfl hm hsorted href hlen hlt
    exact ⟨mem_problems_of_unresolved hrun hm hout, m, hm, hout⟩

/-- A chain of references ends in the body at its end, and a dangling reference stays. -/
theorem references_resolve_chain :
    let p : Progress := { bodies := [(7, "yo")] }
    let ds : List Draft := [⟨1, "see Rnd 7", "a", "Rnd", 1⟩, ⟨2, "See row 1.", "b", "Row", 2⟩,
      ⟨3, "see Rnd 9", "c", "Rnd", 3⟩]
    let es : List Draft := [⟨1, "yo", "a", "Rnd", 1⟩, ⟨2, "yo", "b", "Row", 2⟩,
      ⟨3, "see Rnd 9", "c", "Rnd", 3⟩]
    p.bodies.Plain ∧ p.run {} es = p.run {} ds := by
  intro p ds es
  have hp : p.bodies.Plain := by
    intro n body hget
    have hyo : body = "yo" := by
      by_cases hn : n = 7
      · subst hn
        cases hget
        rfl
      · rw [Table.get?, List.lookup_cons, beq_eq_false_iff_ne.2 hn] at hget
        cases hget
    rw [hyo]
    decide
  have hes : inlined {} p ds = es := by decide +kernel
  refine ⟨hp, ?_⟩
  rw [← hes]
  exact (references_resolve {} p hp).2.2.1 ds

end Progress

end KnitPattern
