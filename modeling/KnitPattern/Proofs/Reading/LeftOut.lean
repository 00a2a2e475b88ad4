/-
  A rejected draft left out. A draft without a row adds its problem and, if its body was found,
  that body for references to its number, and nothing else. So a reading without the draft keeps in
  step with the reading that has it (`step_of_lacks`), as long as no draft after it refers to its
  number, and it ends with the same rows, the same advice and all the other problems
  (`rejected_left_out`). A draft that was itself a reference to no round leaves no body, and nothing
  depends on it at all.
-/
import KnitPattern.Proofs.Body.Limits
import KnitPattern.Proofs.Reading.Run

namespace KnitPattern

/-! ## References to a number -/

namespace Draft

variable {d : Draft} {bodies bodies' : Bodies} {n : Int}

/-- The body of the draft is a reference to the round of a number. -/
def RefersTo (d : Draft) (n : Int) : Prop :=
  ∃ numeral ∈ reference? d.body, (Numeral.value numeral : Int) = n

instance (d : Draft) (n : Int) : Decidable (d.RefersTo n) :=
  Option.decidableExistsMem (reference? d.body)

/-- A draft is found to have the same body by the bodies of the rounds it does not refer to. -/
theorem resolve_congr (hsame : ∀ k, k ≠ n → bodies'.get? k = bodies.get? k)
    (h : ¬ d.RefersTo n) : d.resolve bodies' = d.resolve bodies := by
  cases href : reference? d.body with
  | none => rw [resolve_of_plain bodies' href, resolve_of_plain bodies href]
  | some numeral =>
    by_cases hlen : numeral.length ≤ Halt.digitLimit
    · have hget := hsame (Numeral.value numeral) fun heq => h ⟨numeral, href, heq⟩
      rw [resolve_of_reference bodies' href hlen, resolve_of_reference bodies href hlen, hget]
    · rw [resolve_of_long bodies' href hlen, resolve_of_long bodies href hlen]

end Draft

namespace Progress

variable {ctx : Context} {p p' q q' m : Progress} {d : Draft} {ds : List Draft}

/-! ## Two readings in step -/

/-- Two pieces of work are halted for the same reason, or both end, in progress that is related. -/
inductive SameEnd (R : Progress → Progress → Prop) :
    Except Halt Progress → Except Halt Progress → Prop
  | halted (why : Halt) : SameEnd R (.error why) (.error why)
  | read {q q' : Progress} (h : R q q') : SameEnd R (.ok q) (.ok q')

/-- Readings of one list that keep in step at every draft of it keep in step to the end. -/
theorem sameEnd_run {R : Progress → Progress → Prop} (h : R p p')
    (hstep : ∀ d ∈ ds, ∀ q q', R q q' → SameEnd R (q.step ctx d) (q'.step ctx d)) :
    SameEnd R (p.run ctx ds) (p'.run ctx ds) := by
  induction ds generalizing p p' with
  | nil => exact .read h
  | cons d ds ih =>
    obtain ⟨hd, hds⟩ := List.forall_mem_cons.1 hstep
    have hone := hd p p' h
    rw [run_cons, run_cons]
    generalize p.step ctx d = x, p'.step ctx d = x' at hone
    cases hone with
    | halted why => exact .halted why
    | read h => exact ih h hds

/-- The second progress lacks one problem, which the first has behind those in `known`, and is
else like the first, but for its bodies. -/
structure Lacks (known : List Problem) (b : Problem) (q q' : Progress) : Prop where
  live : q'.live = q.live
  rows : q'.rows = q.rows
  advice : q'.advice = q.advice
  problems : ∃ more, q.problems = known ++ b :: more ∧ q'.problems = known ++ more

/-- The bodies are the same for all numbers but one. -/
def AgreeBut (n : Int) (q q' : Progress) : Prop :=
  ∀ k, k ≠ n → q'.bodies.get? k = q.bodies.get? k

theorem Lacks.add {known : List Problem} {b : Problem} (h : Lacks known b q q') (d : Draft)
    (o : Outcome) : Lacks known b (q.add d o) (q'.add d o) := by
  cases o with
  | row row body remarks =>
    refine ⟨rfl, ?_, ?_, h.problems⟩
    · exact congrArg (· ++ [row]) h.rows
    · exact congrArg (· ++ remarks.map (.round d.label)) h.advice
  | rejected why body =>
    obtain ⟨more, hmore, hmore'⟩ := h.problems
    refine ⟨h.live, h.rows, h.advice, more ++ [.round d.label why], ?_, ?_⟩
    · show q.problems ++ [_] = _
      rw [hmore, List.append_assoc, List.cons_append]
    · show q'.problems ++ [_] = _
      rw [hmore', List.append_assoc]

theorem AgreeBut.add {n : Int} (h : AgreeBut n q q') (d : Draft) (o : Outcome) :
    AgreeBut n (q.add d o) (q'.add d o) := by
  have hput : ∀ body k, k ≠ n →
      (q'.bodies.put d.number body).get? k = (q.bodies.put d.number body).get? k := by
    intro body k hk
    rw [Table.get?_put, Table.get?_put, h k hk]
  cases o with
  | row row body remarks => exact hput body
  | rejected why body =>
    cases body with
    | none => exact h
    | some body => exact hput body

/-- A draft that does not refer to the number has the same outcome. -/
theorem step_of_lacks {known : List Problem} {b : Problem} {n : Int} (hd : ¬ d.RefersTo n)
    (h : Lacks known b q q' ∧ AgreeBut n q q') :
    SameEnd (fun q q' => Lacks known b q q' ∧ AgreeBut n q q') (q.step ctx d) (q'.step ctx d) := by
  obtain ⟨hlacks, hagree⟩ := h
  have hout : q'.outcome ctx d = q.outcome ctx d := by
    unfold outcome Context.outcome
    rw [Draft.resolve_congr hagree hd, hlacks.live, hlacks.rows]
  unfold step
  rw [hout]
  cases q.outcome ctx d with
  | error why => exact .halted why
  | ok o => exact .read ⟨hlacks.add d o, hagree.add d o⟩

/-! ## A draft left out -/

theorem rejected_of_toOption {x : Except Halt Outcome} {why : Rejection} {found : Option String}
    (h : (x.toOption.map fun o => (o.rejection?, o.body?)) = some (some why, found)) :
    x = .ok (.rejected why found) := by
  obtain ⟨o, rfl, ho⟩ := exists_eq_ok_of_toOption h
  cases o with
  | row row body remarks => cases ho
  | rejected why body =>
    cases ho
    rfl

/-- A list with a draft that is rejected is read like the drafts before it and then those after it,
with what the draft has added. -/
theorem run_of_rejected {before : List Draft} {why : Rejection} {found : Option String}
    (hm : p.run ctx before = .ok m) (hd : m.outcome ctx d = .ok (.rejected why found))
    (after : List Draft) :
    p.run ctx (before ++ d :: after) = (m.add d (.rejected why found)).run ctx after ∧
      p.run ctx (before ++ after) = m.run ctx after := by
  have hstep : m.step ctx d = .ok (m.add d (.rejected why found)) := by
    rw [step, hd]
    rfl
  constructor
  · rw [run_append, hm]
    show m.run ctx (d :: after) = _
    rw [run_cons, hstep]
    rfl
  · rw [run_append, hm]
    rfl

/-- A draft without a body is left out without a trace but its problem. -/
theorem sameEnd_of_unresolved (m : Progress) (d : Draft) (why : Rejection) (after : List Draft) :
    SameEnd (fun q q' => Lacks m.problems (.round d.label why) q q' ∧ q'.bodies = q.bodies)
      ((m.add d (.rejected why none)).run ctx after) (m.run ctx after) := by
  -- the problems that are known before the drafts after it have no part in reading these
  let bare : Progress := { m with problems := [] }
  have hwith : m.add d (.rejected why none) = bare.after (m.problems ++ [.round d.label why]) := by
    simp [add, Progress.after, bare]
  have hwithout : m = bare.after m.problems := by
    simp [Progress.after, bare]
  rw [hwith, run_after]
  conv => arg 3; rw [hwithout, run_after]
  cases bare.run ctx after with
  | error why => exact .halted why
  | ok q =>
    refine .read ⟨⟨rfl, rfl, rfl, q.problems, ?_, rfl⟩, rfl⟩
    exact List.append_assoc ..

/-- A draft that is not referred to is left out without a trace but its problem and its body. -/
theorem sameEnd_of_not_refersTo (m : Progress) (d : Draft) (why : Rejection)
    (found : Option String) {after : List Draft} (hafter : ∀ e ∈ after, ¬ e.RefersTo d.number) :
    SameEnd (fun q q' => Lacks m.problems (.round d.label why) q q' ∧ AgreeBut d.number q q')
      ((m.add d (.rejected why found)).run ctx after) (m.run ctx after) := by
  refine sameEnd_run ⟨⟨rfl, rfl, rfl, [], rfl, (List.append_nil _).symm⟩, fun k hk => ?_⟩
    fun e he _ _ => step_of_lacks (hafter e he)
  cases found with
  | none => rfl
  | some body =>
    show m.bodies.get? k = (m.bodies.put d.number body).get? k
    rw [Table.get?_put, if_neg]
    exact fun heq => hk (beq_iff_eq.1 heq)

/-- A rejected draft does not affect the others. Without it the drafts are halted for the same
reason as with it, or read to the same live count, the same rows, the same advice and the same
problems but for that of the draft. If it is rejected as a reference to no round, the bodies are
the same too; if for another reason, this holds where no draft after it refers to its number, and
then no body but that of its number may differ. -/
theorem rejected_left_out {before : List Draft} {why : Rejection} {found : Option String}
    (hm : p.run ctx before = .ok m) (hd : m.outcome ctx d = .ok (.rejected why found))
    (after : List Draft) :
    ((∃ target, why = .unresolved target) →
      SameEnd (fun q q' => Lacks m.problems (.round d.label why) q q' ∧ q'.bodies = q.bodies)
        (p.run ctx (before ++ d :: after)) (p.run ctx (before ++ after))) ∧
    ((∀ target, why ≠ .unresolved target) → (∀ e ∈ after, ¬ e.RefersTo d.number) →
      SameEnd (fun q q' => Lacks m.problems (.round d.label why) q q' ∧ AgreeBut d.number q q')
        (p.run ctx (before ++ d :: after)) (p.run ctx (before ++ after))) := by
  obtain ⟨hwith, hwithout⟩ := run_of_rejected hm hd after
  rw [hwith, hwithout]
  refine ⟨?_, fun _ hafter => sameEnd_of_not_refersTo m d why found hafter⟩
  rintro ⟨target, rfl⟩
  -- a body that was found is rejected for another reason
  cases Context.outcome_eq_ok_iff.1 hd with
  | unresolved => exact sameEnd_of_unresolved m d _ after
  | overLimit _ hexp => cases Context.ofLimits_of_expand hexp

/-- A reference to no round that is itself referred to, and a round whose number was read before
and whose body has no instructions. -/
theorem dangling_and_repeated_left_out :
    let first : List Draft := [⟨1, "k2", "a", "Rnd", 1⟩]
    let dangling : Draft := ⟨2, "see Rnd 9", "b", "Rnd", 2⟩
    let repeated : Draft := ⟨1, ",", "c", "Rnd", 3⟩
    let later : List Draft := [⟨3, "see Rnd 2", "d", "Rnd", 4⟩, ⟨4, "k around, yo", "e", "Rnd", 5⟩]
    ∃ m, run {} { live := 3 } first = .ok m ∧
      SameEnd (fun q q' => Lacks [] (.round "Rnd 2" (.unresolved 9)) q q' ∧ q'.bodies = q.bodies)
        (run {} { live := 3 } (first ++ dangling :: later))
        (run {} { live := 3 } (first ++ later)) ∧
      SameEnd (fun q q' => Lacks [] (.round "Rnd 1" .noInstructions) q q' ∧ AgreeBut 1 q q')
        (run {} { live := 3 } (first ++ repeated :: later))
        (run {} { live := 3 } (first ++ later)) := by
  intro first dangling repeated later
  have hread : ((run {} { live := 3 } first).toOption.map fun m => (m.problems,
      [dangling, repeated].map fun d =>
        (m.outcome {} d).toOption.map fun o => (o.rejection?, o.body?))) =
      some ([], [some (some (.unresolved 9), none), some (some .noInstructions, some ",")]) := by
    decide +kernel
  obtain ⟨m, hm, hseen⟩ := exists_eq_ok_of_toOption hread
  obtain ⟨hproblems, hrest⟩ := Prod.mk.inj hseen
  obtain ⟨hdangling, hrest⟩ := List.cons.inj hrest
  have hrepeated := (List.cons.inj hrest).1
  have hnone := (rejected_left_out hm (rejected_of_toOption hdangling) later).1 ⟨9, rfl⟩
  have hempty := (rejected_left_out hm (rejected_of_toOption hrepeated) later).2 nofun
    (by decide +kernel)
  rw [hproblems] at hnone hempty
  exact ⟨m, hm, hnone, hempty⟩

end Progress

end KnitPattern
