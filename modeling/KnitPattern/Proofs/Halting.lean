/-
  Work that may stop: what comes after another piece of work, and one piece of work for each
  element of a list.
-/
import KnitPattern.Rejection
import Mathlib.Algebra.GroupWithZero.Nat
import Mathlib.Data.List.Forall2

namespace KnitPattern

variable {ε α β : Type}

theorem bind_eq_ok_iff {x : Except ε α} {f : α → Except ε β} {b : β} :
    (x >>= f) = .ok b ↔ ∃ a, x = .ok a ∧ f a = .ok b := by
  cases x with
  | error why => exact ⟨nofun, fun ⟨_, h, _⟩ => nomatch h⟩
  | ok a => exact ⟨fun h => ⟨a, rfl, h⟩, fun ⟨_, ha, h⟩ => by cases ha; exact h⟩

theorem bind_eq_error_iff {x : Except ε α} {f : α → Except ε β} {why : ε} :
    (x >>= f) = .error why ↔ x = .error why ∨ ∃ a, x = .ok a ∧ f a = .error why := by
  constructor
  · intro h
    cases x with
    | error e => cases h; exact .inl rfl
    | ok a => exact .inr ⟨a, rfl, h⟩
  · rintro (rfl | ⟨a, rfl, h⟩)
    · rfl
    · exact h

theorem map_eq_ok_iff {x : Except ε α} {f : α → β} {b : β} :
    x.map f = .ok b ↔ ∃ a, x = .ok a ∧ f a = b := by
  cases x with
  | error why => exact ⟨nofun, fun ⟨_, h, _⟩ => nomatch h⟩
  | ok a => exact ⟨fun h => ⟨a, rfl, Except.ok.inj h⟩, fun ⟨_, ha, h⟩ => by cases ha; rw [← h]; rfl⟩

theorem map_eq_error_iff {x : Except ε α} {f : α → β} {why : ε} :
    x.map f = .error why ↔ x = .error why := by
  cases x <;> simp [Except.map]

theorem mapError_eq_ok_iff {ε' : Type} {x : Except ε α} {f : ε → ε'} {a : α} :
    x.mapError f = .ok a ↔ x = .ok a := by
  cases x <;> simp [Except.mapError]

theorem mapError_eq_error_iff {ε' : Type} {x : Except ε α} {f : ε → ε'} {why : ε'} :
    x.mapError f = .error why ↔ ∃ e, x = .error e ∧ f e = why := by
  cases x <;> simp [Except.mapError]

/-- Work whose result is seen to be there has a result. -/
theorem exists_eq_ok_of_toOption {x : Except ε α} {f : α → β} {b : β}
    (h : x.toOption.map f = some b) : ∃ a, x = .ok a ∧ f a = b := by
  cases x with
  | error why => cases h
  | ok a => exact ⟨a, rfl, Option.some.inj h⟩

/-- Work on a reading that is part of the work on a round. -/
theorem eq_ok_of_liftM {x : Except Halt α} {a : α} (h : (liftM x : Except Stop α) = .ok a) :
    x = .ok a := by
  cases x with
  | error e => cases h
  | ok b => cases h; rfl

theorem eq_error_of_liftM {x : Except Halt α} {why : Halt}
    (h : (liftM x : Except Stop α) = .error (.halted why)) : x = .error why := by
  cases x with
  | error e => cases h; rfl
  | ok a => cases h

theorem liftM_map {γ : Type} (x : Except Halt α) (f : α → γ) :
    (liftM x : Except Stop α).map f = liftM (x.map f) := by
  cases x <;> rfl

theorem mapM_eq_ok_iff {f : α → Except ε β} {as : List α} {bs : List β} :
    as.mapM f = .ok bs ↔ List.Forall₂ (fun a b => f a = .ok b) as bs := by
  induction as generalizing bs with
  | nil =>
    rw [List.mapM_nil, List.forall₂_nil_left_iff]
    exact ⟨fun h => by cases h; rfl, fun h => by rw [h]; rfl⟩
  | cons a as ih =>
    rw [List.mapM_cons, bind_eq_ok_iff, List.forall₂_cons_left_iff]
    constructor
    · rintro ⟨b, hb, h⟩
      obtain ⟨bs', hbs, h⟩ := bind_eq_ok_iff.1 h
      cases h
      exact ⟨b, bs', hb, ih.1 hbs, rfl⟩
    · rintro ⟨b, bs', hb, hbs, rfl⟩
      exact ⟨b, hb, bind_eq_ok_iff.2 ⟨bs', ih.2 hbs, rfl⟩⟩

/-- Of two related lists, each element of the second has one of the first that is related to it. -/
theorem exists_of_mem_forall₂ {R : α → β → Prop} {as : List α} {bs : List β}
    (h : List.Forall₂ R as bs) {b : β} (hb : b ∈ bs) : ∃ a ∈ as, R a b := by
  induction h with
  | nil => cases hb
  | @cons a c as bs hac _ ih =>
    rcases List.mem_cons.1 hb with rfl | hb
    · exact ⟨a, List.mem_cons_self, hac⟩
    · obtain ⟨a', ha', h⟩ := ih hb
      exact ⟨a', List.mem_cons_of_mem a ha', h⟩

/-- What work on a list gives comes from an element of it. -/
theorem exists_of_mem_mapM {f : α → Except ε β} {as : List α} {bs : List β}
    (h : as.mapM f = .ok bs) {b : β} (hb : b ∈ bs) : ∃ a ∈ as, f a = .ok b :=
  exists_of_mem_forall₂ (mapM_eq_ok_iff.1 h) hb

/-- Sizes of the results of work on a list, bounded by sizes of its elements. -/
theorem sum_le_sum_of_mapM {f : α → Except ε β} {as : List α} {bs : List β} {g : β → Nat}
    {g' : α → Nat} (h : as.mapM f = .ok bs)
    (hle : ∀ a ∈ as, ∀ b, f a = .ok b → g b ≤ g' a) : (bs.map g).sum ≤ (as.map g').sum := by
  have hall := mapM_eq_ok_iff.1 h
  clear h
  induction hall with
  | nil => exact Nat.le_refl _
  | @cons a b as bs hab _ ih =>
    obtain ⟨ha, has⟩ := List.forall_mem_cons.1 hle
    rw [List.map_cons, List.map_cons, List.sum_cons, List.sum_cons]
    exact Nat.add_le_add (ha b hab) (ih has)

/-- What stops work on a list stops it on an element. -/
theorem exists_of_mapM_eq_error {f : α → Except ε β} {as : List α} {why : ε}
    (h : as.mapM f = .error why) : ∃ a ∈ as, f a = .error why := by
  induction as with
  | nil => cases h
  | cons a as ih =>
    rw [List.mapM_cons] at h
    rcases bind_eq_error_iff.1 h with ha | ⟨b, -, h⟩
    · exact ⟨a, List.mem_cons_self, ha⟩
    · rcases bind_eq_error_iff.1 h with has | ⟨bs, -, h⟩
      · obtain ⟨a', ha', hwhy⟩ := ih has
        exact ⟨a', List.mem_cons_of_mem a ha', hwhy⟩
      · cases h

section Images

variable {γ δ : Type} {f : α → γ} {h : β → δ}

/-- Two lists have the same images if their elements do, one by one. -/
theorem map_eq_map_iff_forall₂ {k : β → γ} {as : List α} {bs : List β} :
    as.map f = bs.map k ↔ List.Forall₂ (fun a b => f a = k b) as bs := by
  rw [← List.forall₂_eq_eq_eq, List.forall₂_map_left_iff, List.forall₂_map_right_iff]

/-- Work that gives results of one image stops for the same reason, or has two such results. -/
theorem cases_of_map_eq {x x' : Except ε α} (hx : x.map f = x'.map f) :
    (∃ why, x = .error why ∧ x' = .error why) ∨
      ∃ a a', x = .ok a ∧ x' = .ok a' ∧ f a = f a' := by
  cases x with
  | error why =>
    cases x' with
    | error why' =>
      cases hx
      exact .inl ⟨why, rfl, rfl⟩
    | ok a' => cases hx
  | ok a =>
    cases x' with
    | error why' => cases hx
    | ok a' => exact .inr ⟨a, a', rfl, rfl, Except.ok.inj hx⟩

/-- Work that gives results of one image, followed by work that keeps images equal. -/
theorem bind_map_eq {x x' : Except ε α} {g g' : α → Except ε β} (hx : x.map f = x'.map f)
    (hg : ∀ a a', f a = f a' → (g a).map h = (g' a').map h) :
    (x >>= g).map h = (x' >>= g').map h := by
  rcases cases_of_map_eq hx with ⟨why, rfl, rfl⟩ | ⟨a, a', rfl, rfl, ha⟩
  · rfl
  · exact hg a a' ha

/-- Work on lists, element by element with results of one image. -/
theorem mapM_map_eq {g g' : α → Except ε β} {as as' : List α}
    (hall : List.Forall₂ (fun a a' => (g a).map h = (g' a').map h) as as') :
    (as.mapM g).map (List.map h) = (as'.mapM g').map (List.map h) := by
  induction hall with
  | nil => rfl
  | cons hone _ ih =>
    rw [List.mapM_cons, List.mapM_cons]
    refine bind_map_eq hone fun b b' hb => bind_map_eq ih fun bs bs' hbs => ?_
    show Except.ok ((b :: bs).map h) = Except.ok ((b' :: bs').map h)
    rw [List.map_cons, List.map_cons, hb, hbs]

end Images

/-- Work that gives results in another form, element by element, does so on a list. -/
theorem mapM_eq_map {γ : Type} {f : α → Except ε β} {f' : α → Except ε γ} {g : β → γ}
    (h : ∀ a, f' a = (f a).map g) (as : List α) :
    as.mapM f' = (as.mapM f).map (List.map g) := by
  induction as with
  | nil => rfl
  | cons a as ih =>
    rw [List.mapM_cons, List.mapM_cons, ih, h]
    cases f a with
    | error why => rfl
    | ok b => cases as.mapM f <;> rfl

/-- Work on a list whose elements were put in another form. -/
theorem mapM_map_eq_map {γ δ : Type} {f : α → Except ε β} {f' : δ → Except ε γ} {k : α → δ}
    {g : β → γ} (h : ∀ a, f' (k a) = (f a).map g) (as : List α) :
    (as.map k).mapM f' = (as.mapM f).map (List.map g) := by
  rw [List.mapM_map]
  exact mapM_eq_map h as

/-- Work on copies of a list: either a copy stops it, the first one, or all do alike. -/
theorem mapM_flatten_replicate (f : α → Except ε β) (as : List α) {n : Nat} (hn : 0 < n) :
    (List.replicate n as).flatten.mapM f =
      (as.mapM f).map fun bs => (List.replicate n bs).flatten := by
  induction n with
  | zero => omega
  | succ n ih =>
    rw [List.replicate_succ, List.flatten_cons, List.mapM_append]
    cases h : as.mapM f with
    | error why => rfl
    | ok bs =>
      rcases Nat.eq_zero_or_pos n with rfl | hpos
      · show Except.ok (bs ++ []) = Except.ok (List.replicate 1 bs).flatten
        simp
      · rw [ih hpos, h]
        rfl

end KnitPattern
