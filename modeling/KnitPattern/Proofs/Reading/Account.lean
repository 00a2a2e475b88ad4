/-
  The account of a reading. Every draft adds either the next row or the next problem, and no
  other draft has a part in it (`Accounts`, `accounts_of_run`); so rows and problems grow by one
  for each draft, and the rows are named for drafts in their order. The rows of a pattern are
  numbered from zero, which makes their names differ (`nodup_ids`), also where several of them
  are of one round.
-/
import KnitPattern.Proofs.Numeral
import KnitPattern.Proofs.Reading.Run
import KnitPattern.Proofs.Round.Order

namespace KnitPattern

/-- The row is named for the draft: it has its number, what it is called and its text. -/
structure Row.IsFor (r : Row) (d : Draft) : Prop where
  number : r.number = d.number
  label : r.label = d.label
  raw : r.raw = d.raw

/-- What drafts add to a reading that has `index` rows: each adds the next row and remarks that
name it, or the next problem, which names it, and nothing else. -/
inductive Accounts : (index : Nat) → List Draft → List Row → List Problem → List Advice → Prop
  | nil {index : Nat} : Accounts index [] [] [] []
  | row {index : Nat} {d : Draft} {ds : List Draft} {r : Row} {rows : List Row}
      {problems : List Problem} {advice : List Advice} (named : r.IsFor d)
      (position : r.index = index) (remarks : List Body.Remark)
      (rest : Accounts (index + 1) ds rows problems advice) :
      Accounts index (d :: ds) (r :: rows) problems (remarks.map (.round d.label) ++ advice)
  | problem {index : Nat} {d : Draft} {ds : List Draft} {rows : List Row}
      {problems : List Problem} {advice : List Advice} (why : Rejection)
      (rest : Accounts index ds rows problems advice) :
      Accounts index (d :: ds) rows (.round d.label why :: problems) advice

namespace Accounts

variable {index : Nat} {ds : List Draft} {rows : List Row} {problems : List Problem}
  {advice : List Advice}

theorem length_add_length (h : Accounts index ds rows problems advice) :
    rows.length + problems.length = ds.length := by
  induction h with
  | nil => rfl
  | row _ _ _ _ ih =>
    rw [List.length_cons, List.length_cons]
    omega
  | problem _ _ ih =>
    rw [List.length_cons, List.length_cons]
    omega

/-- The rows are named for some of the drafts, in their order. -/
theorem exists_sublist (h : Accounts index ds rows problems advice) :
    ∃ done, done.Sublist ds ∧ List.Forall₂ Row.IsFor rows done := by
  induction h with
  | nil => exact ⟨[], List.Sublist.refl _, .nil⟩
  | row named _ _ _ ih =>
    obtain ⟨done, hsub, hrows⟩ := ih
    exact ⟨_ :: done, hsub.cons_cons _, .cons named hrows⟩
  | problem _ _ ih =>
    obtain ⟨done, hsub, hrows⟩ := ih
    exact ⟨done, hsub.cons _, hrows⟩

theorem index_getElem (h : Accounts index ds rows problems advice) (i : Nat)
    (hi : i < rows.length) : rows[i].index = index + i := by
  induction h generalizing i with
  | nil => exact absurd hi (Nat.not_lt_zero i)
  | row _ position _ _ ih =>
    cases i with
    | zero => exact position
    | succ i =>
      rw [List.getElem_cons_succ, ih i (Nat.lt_of_succ_lt_succ hi)]
      omega
  | problem _ _ ih => exact ih i hi

end Accounts

/-! ## Runs -/

namespace Progress

variable {ctx : Context} {p q : Progress} {d : Draft} {ds : List Draft}

/-- The account of a run: what it adds to the progress before it, and for which drafts. -/
def Account (p : Progress) (ds : List Draft) (q : Progress) : Prop :=
  ∃ rows problems advice, q.rows = p.rows ++ rows ∧ q.problems = p.problems ++ problems ∧
    q.advice = p.advice ++ advice ∧ Accounts p.rows.length ds rows problems advice

theorem account_of_step (h : p.step ctx d = .ok q) : Account p [d] q := by
  obtain ⟨o, ho, rfl⟩ := step_eq_ok_iff.1 h
  have hproblem : ∀ why body, Account p [d] (p.add d (.rejected why body)) := fun why body =>
    ⟨[], [.round d.label why], [], (List.append_nil _).symm, rfl, (List.append_nil _).symm,
      .problem why .nil⟩
  cases ho with
  | unresolved => exact hproblem _ _
  | overLimit => exact hproblem _ _
  | empty => exact hproblem _ _
  | @row _ op ops remarks =>
    have haccounts : Accounts p.rows.length [d]
        [.ofOperations d (op :: ops) p.live p.rows.length] []
        (remarks.map (.round d.label) ++ []) := .row ⟨rfl, rfl, rfl⟩ rfl remarks .nil
    rw [List.append_nil] at haccounts
    exact ⟨_, _, _, rfl, (List.append_nil _).symm, rfl, haccounts⟩

theorem Account.cons {m : Progress} (h : Account p [d] m) (hrest : Account m ds q) :
    Account p (d :: ds) q := by
  obtain ⟨rows, problems, advice, hrows, hproblems, hadvice, hone⟩ := h
  obtain ⟨rows', problems', advice', hrows', hproblems', hadvice', haccounts⟩ := hrest
  refine ⟨rows ++ rows', problems ++ problems', advice ++ advice', ?_, ?_, ?_, ?_⟩
  · rw [hrows', hrows, List.append_assoc]
  · rw [hproblems', hproblems, List.append_assoc]
  · rw [hadvice', hadvice, List.append_assoc]
  · rw [hrows, List.length_append] at haccounts
    cases hone with
    | row named position remarks rest =>
      cases rest
      rw [List.append_nil]
      exact .row named position remarks haccounts
    | problem why rest =>
      cases rest
      exact .problem why haccounts

theorem account_of_run (h : p.run ctx ds = .ok q) : Account p ds q := by
  induction ds generalizing p with
  | nil =>
    cases h
    exact ⟨[], [], [], (List.append_nil _).symm, (List.append_nil _).symm,
      (List.append_nil _).symm, .nil⟩
  | cons d ds ih =>
    obtain ⟨m, hstep, hrun⟩ := run_cons_eq_ok_iff.1 h
    exact (account_of_step hstep).cons (ih hrun)

end Progress

/-! ## The names of rows -/

namespace Row

theorem toList_id {r : Row} {i : Nat} (h : r.index = i) : r.id.toList =
    "row-".toList ++ (Nat.toDigits 10 i ++ '-' :: (toString r.number).toList) := by
  have hindex : (toString r.index).toList = Nat.toDigits 10 i := by
    rw [h]
    exact Nat.toList_repr
  show ("row-" ++ toString r.index ++ "-" ++ toString r.number).toList = _
  rw [String.toList_append, String.toList_append, String.toList_append, hindex]
  simp

/-- The name of a row tells its position. -/
theorem eq_of_id_eq {r s : Row} {i j : Nat} (hr : r.index = i) (hs : s.index = j)
    (h : r.id = s.id) : i = j := by
  have htext : Nat.toDigits 10 i ++ '-' :: (toString r.number).toList =
      Nat.toDigits 10 j ++ '-' :: (toString s.number).toList := by
    have hlist := congrArg String.toList h
    rw [toList_id hr, toList_id hs] at hlist
    exact List.append_cancel_left hlist
  -- the digits end at the sign
  have hrun : ∀ n t, ('-' :: t).takeWhile Text.isDigit = [] →
      (Nat.toDigits 10 n ++ '-' :: t).takeWhile Text.isDigit = Nat.toDigits 10 n := by
    intro n t ht
    rw [List.takeWhile_append_of_pos (Numeral.isDigit_toDigits n), ht, List.append_nil]
  have hsign : ∀ t, ('-' :: t).takeWhile Text.isDigit = [] := fun t =>
    List.takeWhile_cons_of_neg (by decide +kernel)
  have hdigits : Nat.toDigits 10 i = Nat.toDigits 10 j := by
    rw [← hrun i _ (hsign _), htext, hrun j _ (hsign _)]
  rw [← Numeral.value_toDigits i, hdigits, Numeral.value_toDigits]

end Row

/-- Rows that are numbered by their positions have different names. -/
theorem nodup_ids {rows : List Row} (h : ∀ i (hi : i < rows.length), rows[i].index = i) :
    (rows.map Row.id).Nodup := by
  refine List.pairwise_iff_getElem.2 fun i j hi hj hij heq => ?_
  rw [List.length_map] at hi hj
  rw [List.getElem_map, List.getElem_map] at heq
  exact absurd (Row.eq_of_id_eq (h i hi) (h j hj) heq) (Nat.ne_of_lt hij)

/-! ## Whole patterns -/

namespace Problem

theorem label_prefix_message (label : String) (why : Rejection) :
    label.toList <+: (round label why).message.toList := by
  have h : (round label why).message = label ++ ": " ++ why.message := rfl
  rw [h, String.toList_append, String.toList_append, List.append_assoc]
  exact List.prefix_append _ _

end Problem

namespace Pattern

theorem accounts_of_ofText {text : String} {settings : Settings} {heuristics : Heuristics}
    {glossary : Option Glossary} {starting : Option Int} {pat : Pattern} {e : Extraction}
    (h : ofText text settings heuristics glossary starting = .ok pat)
    (he : Extraction.ofText text = .ok e) :
    ∃ problems advice, pat.problems = e.problems ++ problems ∧
      pat.advice = firstsBy Advice.message advice ∧
        Accounts 0 (Draft.sort e.drafts) pat.rows problems advice := by
  obtain ⟨e', last, he', hrun, rfl⟩ := ofText_eq_ok_iff.1 h
  cases he.symm.trans he'
  obtain ⟨rows, problems, advice, hrows, hproblems, hadvice, haccounts⟩ :=
    Progress.account_of_run hrun
  refine ⟨problems, advice, hproblems, congrArg (firstsBy Advice.message) hadvice, ?_⟩
  show Accounts 0 _ last.rows _ _
  rw [hrows]
  exact haccounts

/-- Every draft has one outcome. A run adds one row or one problem for each draft, the problem
beginning with what the draft is called, and the rows are named for some of the drafts in their
order. In a pattern the problems of rounds come after those of lines, the drafts are those of
the text in the order of their numbers, those of one number in the order of the text, and each
row is named by its position and its round, so no two rows have one name. -/
theorem one_outcome :
    (∀ (ctx : Context) (p q : Progress) (ds : List Draft), p.run ctx ds = .ok q →
      ∃ rows problems advice, q.rows = p.rows ++ rows ∧ q.problems = p.problems ++ problems ∧
        q.advice = p.advice ++ advice ∧ Accounts p.rows.length ds rows problems advice ∧
        rows.length + problems.length = ds.length ∧
        ∃ done, done.Sublist ds ∧ List.Forall₂ Row.IsFor rows done) ∧
    (∀ label why, label.toList <+: (Problem.round label why).message.toList) ∧
    ∀ text settings heuristics glossary starting pat e,
      ofText text settings heuristics glossary starting = .ok pat →
      Extraction.ofText text = .ok e →
      (∃ problems advice, pat.problems = e.problems ++ problems ∧
        pat.advice = firstsBy Advice.message advice ∧
        Accounts 0 (Draft.sort e.drafts) pat.rows problems advice) ∧
      (∃ done, done.Sublist (Draft.sort e.drafts) ∧ List.Forall₂ Row.IsFor pat.rows done) ∧
      ((Draft.sort e.drafts).Pairwise fun a b => a.number ≤ b.number) ∧
      (∀ n, Draft.numbered n (Draft.sort e.drafts) = Draft.numbered n e.drafts) ∧
      (∀ i (hi : i < pat.rows.length), pat.rows[i].id = s!"row-{i}-{pat.rows[i].number}") ∧
      (pat.rows.map Row.id).Nodup := by
  refine ⟨?_, Problem.label_prefix_message, ?_⟩
  · intro ctx p q ds h
    obtain ⟨rows, problems, advice, hrows, hproblems, hadvice, haccounts⟩ :=
      Progress.account_of_run h
    exact ⟨rows, problems, advice, hrows, hproblems, hadvice, haccounts,
      haccounts.length_add_length, haccounts.exists_sublist⟩
  · intro text settings heuristics glossary starting pat e h he
    obtain ⟨problems, advice, hproblems, hadvice, haccounts⟩ := accounts_of_ofText h he
    have hindex : ∀ i (hi : i < pat.rows.length), pat.rows[i].index = i := by
      intro i hi
      rw [haccounts.index_getElem i hi]
      omega
    refine ⟨⟨problems, advice, hproblems, hadvice, haccounts⟩, haccounts.exists_sublist,
      Draft.pairwise_sort _, fun n => Draft.numbered_sort n _, ?_, nodup_ids hindex⟩
    intro i hi
    show s!"row-{pat.rows[i].index}-{pat.rows[i].number}" = _
    rw [hindex i hi]
    rfl

/-- One round declared three times, once with a reference that is not resolved. -/
theorem one_outcome_of_duplicates :
    ∃ pat e, ofText "Rnds 2, 1, 2: k1\nRnd 2: see Rnd 9" = .ok pat ∧
      Extraction.ofText "Rnds 2, 1, 2: k1\nRnd 2: see Rnd 9" = .ok e ∧
      pat.problems = [.round "Rnd 2" (.unresolved 9)] ∧
      pat.rows.map Row.id = ["row-0-1", "row-1-2", "row-2-2"] ∧
      (pat.rows.map Row.id).Nodup ∧
      ∃ done, done.Sublist (Draft.sort e.drafts) ∧ List.Forall₂ Row.IsFor pat.rows done := by
  have hextract : Extraction.ofText "Rnds 2, 1, 2: k1\nRnd 2: see Rnd 9" = .ok ⟨
      [⟨2, "k1", "Rnds 2, 1, 2: k1", "Rnd", 1⟩, ⟨1, "k1", "Rnds 2, 1, 2: k1", "Rnd", 1⟩,
        ⟨2, "k1", "Rnds 2, 1, 2: k1", "Rnd", 1⟩, ⟨2, "see Rnd 9", "Rnd 2: see Rnd 9", "Rnd", 2⟩],
      []⟩ := by decide +kernel
  have hread : (ofText "Rnds 2, 1, 2: k1\nRnd 2: see Rnd 9").toOption.map
      (fun pat => (pat.problems, pat.rows.map Row.id)) =
        some ([.round "Rnd 2" (.unresolved 9)], ["row-0-1", "row-1-2", "row-2-2"]) := by
    decide +kernel
  cases h : ofText "Rnds 2, 1, 2: k1\nRnd 2: see Rnd 9" with
  | error why =>
    rw [h] at hread
    cases hread
  | ok pat =>
    rw [h] at hread
    obtain ⟨hproblems, hids⟩ := Prod.mk.inj (Option.some.inj hread)
    obtain ⟨-, hdone, -, -, -, hnodup⟩ :=
      one_outcome.2.2 _ {} .bundled none none pat _ h hextract
    exact ⟨pat, _, rfl, hextract, hproblems, hids, hnodup, hdone⟩

end Pattern

end KnitPattern
