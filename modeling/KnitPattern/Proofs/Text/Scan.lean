/-
  What the scanners read. Each scanner has two lemmas: `..._append` runs it on a text put
  together from what it reads and a rest, and `..._eq_some` takes apart a text on which it
  has run. A run stops only where its class does, so the lemmas about runs ask that the rest
  begins with no character of the class (`Ends`); words need no such condition.
-/
import KnitPattern.Text.Scan
import Mathlib.Data.List.Basic

namespace KnitPattern.Text

/-- A text that is empty or begins with a character outside of a class. -/
def Ends (p : Char → Bool) (s : List Char) : Prop :=
  ∀ c ∈ s.head?, p c = false

theorem ends_nil (p : Char → Bool) : Ends p [] := by
  intro c hc
  cases hc

theorem ends_cons {p : Char → Bool} {c : Char} (hc : p c = false) (s : List Char) :
    Ends p (c :: s) := by
  intro d hd
  cases hd
  exact hc

/-- A text that begins with a text of other characters. -/
theorem ends_append {p : Char → Bool} {v : List Char} (hne : v ≠ [])
    (hv : ∀ c ∈ v, p c = false) (s : List Char) : Ends p (v ++ s) := by
  obtain ⟨c, cs, rfl⟩ := List.exists_cons_of_ne_nil hne
  exact ends_cons (hv c List.mem_cons_self) _

namespace Scan

variable {α β : Type} {p : Char → Bool} {s w r : List Char}

/-! ## One after another -/

theorem bind_of_some {q : Scan α} {f : α → Scan β} {a : α} (h : q s = some (a, r)) :
    (q >>= f) s = f a r := by
  show (q s).bind (fun x => f x.1 x.2) = _
  rw [h]
  rfl

theorem bind_of_none {q : Scan α} {f : α → Scan β} (h : q s = none) : (q >>= f) s = none := by
  show (q s).bind (fun x => f x.1 x.2) = _
  rw [h]
  rfl

theorem orElse_of_some {q q' : Scan α} {a : α} (h : q s = some (a, r)) :
    (q <|> q') s = some (a, r) :=
  orElse_eq_some.2 (.inl h)

theorem orElse_of_none {q q' : Scan α} (h : q s = none) : (q <|> q') s = q' s := by
  show (q s <|> q' s) = _
  rw [h]
  rfl

theorem whole_eq_some {q : Scan α} {a : α} : whole q s = some a ↔ q s = some (a, []) := by
  unfold whole
  constructor
  · intro h
    split at h
    · cases h
      assumption
    · cases h
  · intro h
    rw [h]

theorem isSome_whole {q : Scan α} : (whole q s).isSome = true ↔ ∃ a, q s = some (a, []) := by
  rw [Option.isSome_iff_exists]
  exact exists_congr fun _ => whole_eq_some

/-! ## Characters and runs -/

theorem char_eq_some {c : Char} : char p s = some (c, r) ↔ p c = true ∧ s = c :: r := by
  cases s with
  | nil => simp [char, pick]
  | cons d ds =>
    simp only [char, pick, Option.guard, Option.map_eq_some_iff, Option.ite_none_right_eq_some]
    constructor
    · rintro ⟨e, ⟨hd, he⟩, h⟩
      cases he
      cases h
      exact ⟨hd, rfl⟩
    · rintro ⟨hc, h⟩
      cases h
      exact ⟨_, ⟨hc, rfl⟩, rfl⟩

theorem char_cons {c : Char} (hc : p c = true) : char p (c :: r) = some (c, r) :=
  char_eq_some.2 ⟨hc, rfl⟩

theorem char_of_ends (h : Ends p s) : char p s = none := by
  cases s with
  | nil => rfl
  | cons c cs =>
    have hc : p c = false := h c rfl
    simp [char, pick, hc]

theorem run_append (hw : ∀ c ∈ w, p c = true) (hr : Ends p r) :
    run p (w ++ r) = some (w, r) := by
  unfold run
  rw [List.takeWhile_append_of_pos hw, List.dropWhile_append_of_pos hw]
  cases r with
  | nil => simp
  | cons c cs =>
    have hc : p c = false := hr c rfl
    simp [hc]

theorem run_eq_some (h : run p s = some (w, r)) :
    s = w ++ r ∧ (∀ c ∈ w, p c = true) ∧ Ends p r := by
  cases h
  refine ⟨List.takeWhile_append_dropWhile.symm, List.all_eq_true.1 List.all_takeWhile, ?_⟩
  intro c hc
  have := List.head?_dropWhile_not p s
  rw [Option.mem_def.1 hc] at this
  simpa using this

theorem run1_append (hne : w ≠ []) (hw : ∀ c ∈ w, p c = true) (hr : Ends p r) :
    run1 p (w ++ r) = some (w, r) := by
  obtain ⟨c, cs, rfl⟩ := List.exists_cons_of_ne_nil hne
  rw [List.cons_append]
  unfold run1
  rw [bind_of_some (char_cons (hw c List.mem_cons_self)),
    bind_of_some (run_append (fun d hd => hw d (List.mem_cons_of_mem c hd)) hr)]
  rfl

theorem run1_eq_some (h : run1 p s = some (w, r)) :
    s = w ++ r ∧ w ≠ [] ∧ (∀ c ∈ w, p c = true) ∧ Ends p r := by
  unfold run1 at h
  obtain ⟨c, t, hchar, h⟩ := bind_eq_some.1 h
  obtain ⟨cs, t', hrun, h⟩ := bind_eq_some.1 h
  cases h
  obtain ⟨hc, rfl⟩ := char_eq_some.1 hchar
  obtain ⟨rfl, hcs, hr⟩ := run_eq_some hrun
  refine ⟨rfl, List.cons_ne_nil _ _, ?_, hr⟩
  intro d hd
  rcases List.mem_cons.1 hd with rfl | hd
  · exact hc
  · exact hcs d hd

/-! ## Blanks -/

theorem blanks_append (hw : ∀ c ∈ w, isBlank c = true) (hr : Ends isBlank r) :
    blanks (w ++ r) = some ((), r) :=
  bind_of_some (run_append hw hr)

theorem blanks_eq_some (h : blanks s = some ((), r)) :
    ∃ w, s = w ++ r ∧ ∀ c ∈ w, isBlank c = true := by
  obtain ⟨w, t, hrun, h⟩ := bind_eq_some.1 h
  cases h
  obtain ⟨hs, hw, -⟩ := run_eq_some hrun
  exact ⟨w, hs, hw⟩

theorem blanks1_append (hne : w ≠ []) (hw : ∀ c ∈ w, isBlank c = true) (hr : Ends isBlank r) :
    blanks1 (w ++ r) = some ((), r) :=
  bind_of_some (run1_append hne hw hr)

theorem blanks1_eq_some (h : blanks1 s = some ((), r)) :
    ∃ w, s = w ++ r ∧ w ≠ [] ∧ (∀ c ∈ w, isBlank c = true) := by
  obtain ⟨w, t, hrun, h⟩ := bind_eq_some.1 h
  cases h
  obtain ⟨hs, hne, hw, -⟩ := run1_eq_some hrun
  exact ⟨w, hs, hne, hw⟩

/-! ## Words -/

theorem letters_append {ls : List Char} (hw : w.map foldCase = ls) :
    letters ls (w ++ r) = some ((), r) := by
  subst hw
  induction w with
  | nil => rfl
  | cons c cs ih =>
    show (char (foldCase · == foldCase c) >>= fun _ => letters (cs.map foldCase))
      (c :: (cs ++ r)) = _
    rw [bind_of_some (char_cons (by rw [beq_self_eq_true])), ih]

theorem letters_eq_some {ls : List Char} (h : letters ls s = some ((), r)) :
    ∃ w, w.map foldCase = ls ∧ s = w ++ r := by
  induction ls generalizing s with
  | nil =>
    cases h
    exact ⟨[], rfl, rfl⟩
  | cons l ls ih =>
    unfold letters at h
    obtain ⟨c, t, hchar, hletters⟩ := bind_eq_some.1 h
    obtain ⟨hc, rfl⟩ := char_eq_some.1 hchar
    obtain ⟨w, hw, rfl⟩ := ih hletters
    refine ⟨c :: w, ?_, rfl⟩
    rw [List.map_cons, beq_iff_eq.1 hc, hw]

/-- A word is not read from a text that begins otherwise. -/
theorem letters_of_ends {l : Char} {ls : List Char} (h : Ends (foldCase · == l) s) :
    letters (l :: ls) s = none :=
  bind_of_none (char_of_ends h)

theorem letters_of_ne {ls : List Char} (hlen : w.length = ls.length) (hne : w.map foldCase ≠ ls) :
    letters ls (w ++ r) = none := by
  cases h : letters ls (w ++ r) with
  | none => rfl
  | some read =>
    obtain ⟨v, hv, heq⟩ := letters_eq_some (r := read.2) h
    have hlen' : w.length = v.length := by rw [hlen, ← hv, List.length_map]
    rw [(List.append_inj heq hlen').1] at hne
    exact absurd hv hne

/-! ## What stands in a text -/

theorem keeps_run1 (p : Char → Bool) : Keeps (run1 p) :=
  ((consumes_char p).bind fun _ => (keeps_run p).bind fun _ => keeps_pure _).keeps

theorem keeps_blanks : Keeps blanks :=
  (keeps_run isBlank).bind fun _ => keeps_pure _

theorem keeps_blanks1 : Keeps blanks1 :=
  (keeps_run1 isBlank).bind fun _ => keeps_pure _

/-- What the scanner reads stands in the text in the sense of `Q`. -/
def Finds (Q : α → List Char → Prop) (q : Scan α) : Prop :=
  ∀ s a r, q s = some (a, r) → Q a s

/-- What stands at the end of a text stands in it. -/
theorem Finds.after {Q : β → List Char → Prop} {q : Scan α} {f : α → Scan β}
    (hQ : ∀ b v s, Q b s → Q b (v ++ s)) (hq : Keeps q) (hf : ∀ a, Finds Q (f a)) :
    Finds Q (q >>= f) := by
  intro s b r h
  obtain ⟨a, t, hread, hrest⟩ := bind_eq_some.1 h
  obtain ⟨v, rfl⟩ := hq s a t hread
  exact hQ b v t (hf a t b r hrest)

/-! ## What may be left out -/

theorem optional_of_some {q : Scan Unit} (h : q s = some ((), r)) :
    optional q s = some ((), r) :=
  orElse_of_some h

theorem optional_of_none {q : Scan Unit} (h : q s = none) : optional q s = some ((), s) :=
  orElse_of_none h

theorem optional_eq_some {q : Scan Unit} (h : optional q s = some ((), r)) :
    q s = some ((), r) ∨ r = s := by
  rcases orElse_eq_some.1 h with h | ⟨-, h⟩
  · exact .inl h
  · cases h
    exact .inr rfl

end Scan

end KnitPattern.Text
