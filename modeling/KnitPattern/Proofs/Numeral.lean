/-
  Numerals written in ASCII. The digits of a number are read as that number
  (`value_toDigits`), and a number that was read from a numeral within the limit on digits is
  written within it (`read_toDigits`). Below it, the numerals that stand in a text: one that is
  not read is a run of more digits than the limit allows (`TooLongIn`).
-/
import KnitPattern.Numeral
import KnitPattern.Proofs.Text.DigitRun
import Mathlib.Algebra.Group.Nat.Defs

namespace KnitPattern

open Text

namespace Numeral

theorem extend_append (n : Nat) (ds es : List Char) :
    extend n (ds ++ es) = extend (extend n ds) es :=
  List.foldl_append

theorem value_append (ds es : List Char) : value (ds ++ es) = extend (value ds) es :=
  extend_append 0 ds es

/-! ## The size of a value -/

theorem digit?_le (c : Char) : (digit? c).getD 0 ≤ 9 := by
  cases h : digit? c with
  | none => exact Nat.zero_le 9
  | some v =>
    obtain ⟨z, hz, rfl⟩ := Option.map_eq_some_iff.1 h
    have hbounds := List.find?_some hz
    simp only [Bool.and_eq_true, decide_eq_true_eq] at hbounds
    show c.toNat - z ≤ 9
    omega

theorem extend_lt (n : Nat) (ds : List Char) : extend n ds < (n + 1) * 10 ^ ds.length := by
  induction ds generalizing n with
  | nil =>
    show n < (n + 1) * 1
    omega
  | cons c ds ih =>
    have hc := digit?_le c
    calc extend n (c :: ds) = extend (10 * n + (digit? c).getD 0) ds := rfl
      _ < (10 * n + (digit? c).getD 0 + 1) * 10 ^ ds.length := ih _
      _ ≤ ((n + 1) * 10) * 10 ^ ds.length := Nat.mul_le_mul_right _ (by omega)
      _ = (n + 1) * 10 ^ (c :: ds).length := by
        rw [List.length_cons, Nat.pow_succ, Nat.mul_assoc, Nat.mul_comm 10]

theorem value_lt (ds : List Char) : value ds < 10 ^ ds.length := by
  have h := extend_lt 0 ds
  rwa [Nat.zero_add, Nat.one_mul] at h

/-! ## The digits of a number -/

theorem digit?_digitChar {n : Nat} (hn : n < 10) : digit? n.digitChar = some n := by
  have h : ∀ n, n < 10 → digit? n.digitChar = some n := by decide +kernel
  exact h n hn

theorem value_toDigits (n : Nat) : value (Nat.toDigits 10 n) = n := by
  induction n using Nat.strongRecOn with
  | ind n ih =>
    rw [Nat.toDigits_eq_if (by decide)]
    split
    · next hn =>
      show 10 * 0 + (digit? n.digitChar).getD 0 = n
      rw [digit?_digitChar hn, Option.getD_some]
      omega
    · next hn =>
      rw [value_append, ih (n / 10) (by omega)]
      show 10 * (n / 10) + (digit? (n % 10).digitChar).getD 0 = n
      rw [digit?_digitChar (Nat.mod_lt n (by decide)), Option.getD_some]
      omega

theorem isDigit_toDigits (n : Nat) : ∀ c ∈ Nat.toDigits 10 n, isDigit c = true := by
  induction n using Nat.strongRecOn with
  | ind n ih =>
    rw [Nat.toDigits_eq_if (by decide)]
    split
    · next hn =>
      rw [List.forall_mem_singleton, isDigit, digit?_digitChar hn]
      rfl
    · next hn =>
      rw [List.forall_mem_append, List.forall_mem_singleton, isDigit,
        digit?_digitChar (Nat.mod_lt n (by decide))]
      exact ⟨ih (n / 10) (by omega), rfl⟩

theorem read_toDigits {n : Nat} (hn : n < 10 ^ Halt.digitLimit) :
    read (Nat.toDigits 10 n) = .ok n := by
  have hlen := (Nat.length_toDigits_le_iff (by decide) (by decide)).2 hn
  rw [read, if_pos hlen, value_toDigits]

theorem lt_of_read {ds : List Char} {n : Nat} (h : read ds = .ok n) :
    n < 10 ^ Halt.digitLimit := by
  unfold read at h
  split at h
  · next hlen =>
    cases h
    exact Nat.lt_of_lt_of_le (value_lt ds) (Nat.pow_le_pow_right (by decide) hlen)
  · cases h

end Numeral

theorem Halt.pow_digitLimit : Nat.pow 10 digitLimit = 10 ^ digitLimit := by
  generalize digitLimit = limit
  rfl

theorem Halt.neg_lt_of_pos {n : Int} (h : 1 ≤ n) : -(Nat.pow 10 digitLimit : Int) < n := by
  have hnonneg : (0 : Int) ≤ Nat.pow 10 digitLimit := Int.natCast_nonneg _
  omega

theorem Halt.isWritable_of_lt {n : Int} (hlow : -(Nat.pow 10 digitLimit : Int) < n)
    (h : n < Nat.pow 10 digitLimit) : isWritable n = true :=
  decide_eq_true (by omega)

namespace Numeral

/-! ## Numerals that are too long -/

/-- A numeral of the text is too long to be read, and that is what the work was halted for. -/
def TooLongIn (s : List Char) (why : Halt) : Prop :=
  ∃ ds, DigitRun ds s ∧ Halt.digitLimit < ds.length ∧ why = .numeralTooLong ds.length

theorem TooLongIn.of_within {s t : List Char} {why : Halt} (hst : DigitsWithin s t)
    (h : TooLongIn s why) : TooLongIn t why := by
  obtain ⟨ds, hds, hlen, hwhy⟩ := h
  exact ⟨ds, hst ds hds, hlen, hwhy⟩

theorem tooLongIn_of_read {s ds : List Char} {why : Halt} (hds : DigitRun ds s)
    (h : read ds = .error why) : TooLongIn s why := by
  unfold read at h
  split at h
  · cases h
  · next hlen =>
    cases h
    exact ⟨ds, hds, Nat.lt_of_not_le hlen, rfl⟩

end Numeral

end KnitPattern
