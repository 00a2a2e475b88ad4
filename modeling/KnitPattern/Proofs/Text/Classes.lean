/-
  Classes of characters that do not meet. A character that counts as a small letter is a
  letter of ASCII or one of four signs (`isCased_of_foldCase`), and no other character is read
  as anything but itself (`eq_of_foldCase`); so a class without letters is checked on ASCII
  and the signs (`not_of_isCased`), and a class without digits on the table of digits
  (`not_of_isDigit`). No blank is a word character (`not_isWordChar_of_isBlank`).
-/
import KnitPattern.Text.Blank
import KnitPattern.Text.Digit
import KnitPattern.Text.Letter
import KnitPattern.Text.WordChar
import Mathlib.Tactic.ByContra

namespace KnitPattern.Text

/-! ## Capital and small letters of ASCII -/

theorem isUpper_iff {c : Char} : c.isUpper = true ↔ 65 ≤ c.toNat ∧ c.toNat ≤ 90 := by
  show decide ('A'.val ≤ c.val ∧ c.val ≤ 'Z'.val) = true ↔ _
  rw [decide_eq_true_iff, UInt32.le_iff_toNat_le, UInt32.le_iff_toNat_le]
  rfl

theorem isLower_eq (c : Char) :
    c.isLower = (decide ('a'.val ≤ c.val) && decide (c.val ≤ 'z'.val)) := rfl

theorem isLower_iff {c : Char} : c.isLower = true ↔ 97 ≤ c.toNat ∧ c.toNat ≤ 122 := by
  rw [isLower_eq, Bool.and_eq_true, decide_eq_true_iff, decide_eq_true_iff,
    UInt32.le_iff_toNat_le, UInt32.le_iff_toNat_le]
  rfl

theorem isAlpha_eq (c : Char) : c.isAlpha = (c.isUpper || c.isLower) := rfl

theorem toLower_eq_self_or (c : Char) :
    c.toLower = c ∨ (c.isUpper = true ∧ c.toLower.isLower = true) := by
  unfold Char.toLower
  split
  · next h =>
    have hup : c.isUpper = true := decide_eq_true h
    have hle := isUpper_iff.1 hup
    have hval : (c.val + ('a'.val - 'A'.val)).toNat = c.toNat + 32 := by
      rw [UInt32.toNat_add]
      show (c.toNat + 32) % 4294967296 = _
      omega
    refine .inr ⟨hup, isLower_iff.2 ?_⟩
    show 97 ≤ (c.val + ('a'.val - 'A'.val)).toNat ∧ (c.val + ('a'.val - 'A'.val)).toNat ≤ 122
    omega
  · exact .inl rfl

theorem isDigit_iff {c : Char} : c.isDigit = true ↔ 48 ≤ c.toNat ∧ c.toNat ≤ 57 := by
  show (decide (c.val ≥ '0'.val) && decide (c.val ≤ '9'.val)) = true ↔ _
  rw [Bool.and_eq_true, decide_eq_true_iff, decide_eq_true_iff, ge_iff_le,
    UInt32.le_iff_toNat_le, UInt32.le_iff_toNat_le]
  rfl

theorem toUpper_eq_self_or (c : Char) :
    (c.toUpper = c ∧ c.isLower = false) ∨ (c.isLower = true ∧ c.toUpper.isUpper = true) := by
  unfold Char.toUpper
  split
  · next h =>
    have hlow : c.isLower = true := by
      rw [isLower_eq, Bool.and_eq_true, decide_eq_true_iff, decide_eq_true_iff]
      exact h
    have hle := isLower_iff.1 hlow
    have hval : (c.val + ('A'.val - 'a'.val)).toNat = c.toNat - 32 := by
      rw [UInt32.toNat_add]
      show (c.toNat + 4294967264) % 4294967296 = _
      omega
    refine .inr ⟨hlow, isUpper_iff.2 ?_⟩
    show 65 ≤ (c.val + ('A'.val - 'a'.val)).toNat ∧ (c.val + ('A'.val - 'a'.val)).toNat ≤ 90
    omega
  · next h =>
    refine .inl ⟨rfl, Bool.eq_false_iff.2 fun hlow => h ?_⟩
    rw [isLower_eq, Bool.and_eq_true, decide_eq_true_iff, decide_eq_true_iff] at hlow
    exact hlow

/-- A capital letter or a digit is no small letter. -/
theorem isLower_eq_false {c : Char} (hc : c.isUpper = true ∨ c.isDigit = true) :
    c.isLower = false := by
  have hle : c.toNat ≤ 90 := by
    rw [isUpper_iff, isDigit_iff] at hc
    omega
  refine Bool.eq_false_iff.2 fun hlow => ?_
  have hge := (isLower_iff.1 hlow).1
  omega

theorem toNat_lt_of_isAlpha {c : Char} (hc : c.isAlpha = true) : c.toNat < 0x80 := by
  rw [isAlpha_eq, Bool.or_eq_true, isUpper_iff, isLower_iff] at hc
  omega

/-- A character is its own small letter, or both are letters. -/
theorem toLower_eq_self_or_isAlpha (c : Char) :
    c.toLower = c ∨ (c.isAlpha = true ∧ c.toLower.isAlpha = true) := by
  rcases toLower_eq_self_or c with hself | ⟨hupper, hlower⟩
  · exact .inl hself
  · rw [isAlpha_eq, isAlpha_eq, hupper, hlower, Bool.or_true]
    exact .inr ⟨rfl, rfl⟩

/-! ## Letters in either case -/

/-- The letters of ASCII and the four signs that count as small letters. -/
def isCased (c : Char) : Bool :=
  c.isAlpha || c == '\u212A' || c == '\u017F' || c == '\u0130' || c == '\u0131'

theorem foldCase_eq_self_or (c : Char) :
    foldCase c = c ∨ (isCased c = true ∧ (foldCase c).isLower = true) := by
  unfold foldCase
  split
  · next h => rw [beq_iff_eq.1 h]; exact .inr (by decide)
  split
  · next h => rw [beq_iff_eq.1 h]; exact .inr (by decide)
  split
  · next h =>
    rcases Bool.or_eq_true_iff.1 h with h | h
    · rw [beq_iff_eq.1 h]; exact .inr (by decide)
    · rw [beq_iff_eq.1 h]; exact .inr (by decide)
  · rcases toLower_eq_self_or c with hself | ⟨hup, hlow⟩
    · exact .inl hself
    · exact .inr ⟨by rw [isCased, isAlpha_eq, hup]; rfl, hlow⟩

theorem isCased_of_foldCase {c l : Char} (hl : l.isLower = true) (h : foldCase c = l) :
    isCased c = true := by
  rcases foldCase_eq_self_or c with hself | ⟨hc, -⟩
  · have hc : c.isLower = true := by rw [← hself, h, hl]
    rw [isCased, isAlpha_eq, hc, Bool.or_true]
    rfl
  · exact hc

theorem eq_of_foldCase {c l : Char} (hl : l.isLower = false) (h : foldCase c = l) : c = l := by
  rcases foldCase_eq_self_or c with hself | ⟨-, hlow⟩
  · rw [← hself, h]
  · rw [h, hl] at hlow
    cases hlow

/-! ## What a letter is not -/

/-- A class of characters without any letter of ASCII. -/
theorem not_of_isAlpha {p : Char → Bool}
    (hp : ∀ n, n < 0x80 → p (Char.ofNat n) = true → (Char.ofNat n).isAlpha = false) {c : Char}
    (hc : c.isAlpha = true) : p c = false := by
  by_contra hpc
  have hno := hp c.toNat (toNat_lt_of_isAlpha hc)
  rw [Char.ofNat_toNat] at hno
  rw [hno (Bool.not_eq_false _ ▸ hpc)] at hc
  cases hc

/-- A class of characters without any letter. -/
theorem not_of_isCased {p : Char → Bool}
    (hp : ∀ n, n < 0x80 → p (Char.ofNat n) = true → (Char.ofNat n).isAlpha = false)
    (hsigns : (p '\u212A' || p '\u017F' || p '\u0130' || p '\u0131') = false) {c : Char}
    (hc : isCased c = true) : p c = false := by
  simp only [Bool.or_eq_false_iff] at hsigns
  simp only [isCased, Bool.or_eq_true, beq_iff_eq] at hc
  rcases hc with (((halpha | rfl) | rfl) | rfl) | rfl
  · exact not_of_isAlpha hp halpha
  · exact hsigns.1.1.1
  · exact hsigns.1.1.2
  · exact hsigns.1.2
  · exact hsigns.2

theorem not_isBlank_of_isCased {c : Char} (hc : isCased c = true) : isBlank c = false :=
  not_of_isCased (by decide) (by decide) hc

/-! ## What a digit is not -/

/-- A class of characters without any digit. -/
theorem not_of_isDigit {p : Char → Bool}
    (hp : ∀ z ∈ digitZeros, ∀ n, n < 10 → p (Char.ofNat (z + n)) = false) {c : Char}
    (hc : isDigit c = true) : p c = false := by
  unfold isDigit digit? at hc
  rw [Option.isSome_map, Option.isSome_iff_exists] at hc
  obtain ⟨z, hz⟩ := hc
  have hmem := List.mem_of_find?_eq_some hz
  have hbounds := List.find?_some hz
  simp only [Bool.and_eq_true, decide_eq_true_eq] at hbounds
  have h := hp z hmem (c.toNat - z) (by omega)
  rwa [Nat.add_sub_cancel' hbounds.1, Char.ofNat_toNat] at h

theorem not_isBlank_of_isDigit {c : Char} (hc : isDigit c = true) : isBlank c = false :=
  not_of_isDigit (by decide +kernel) hc

theorem not_isDigit_of_isBlank {c : Char} (hc : isBlank c = true) : isDigit c = false := by
  by_contra hd
  rw [not_isBlank_of_isDigit (Bool.not_eq_false _ ▸ hd)] at hc
  cases hc

theorem not_isDigit_of_isCased {c : Char} (hc : isCased c = true) : isDigit c = false := by
  by_contra hd
  have hno : isCased c = false := not_of_isDigit (by decide +kernel) (Bool.not_eq_false _ ▸ hd)
  rw [hno] at hc
  cases hc

/-! ## What a blank is not -/

/-- The first and the last code point of every run of blanks. -/
def blankRuns : List (Nat × Nat) := [
  (0x9, 0xD), (0x1C, 0x20), (0x85, 0x85), (0xA0, 0xA0), (0x1680, 0x1680), (0x2000, 0x200A),
  (0x2028, 0x2029), (0x202F, 0x202F), (0x205F, 0x205F), (0x3000, 0x3000)]

theorem exists_blankRun {c : Char} (hc : isBlank c = true) :
    ∃ gap ∈ blankRuns, gap.1 ≤ c.toNat ∧ c.toNat ≤ gap.2 := by
  simp only [isBlank, Bool.or_eq_true, Bool.and_eq_true, decide_eq_true_eq, beq_iff_eq] at hc
  simp only [blankRuns, List.mem_cons, List.not_mem_nil, or_false, exists_eq_or_imp,
    exists_eq_left]
  omega

theorem not_isWordChar_of_isBlank {c : Char} (hc : isBlank c = true) : isWordChar c = false := by
  have hapart : ∀ run ∈ wordRuns, ∀ gap ∈ blankRuns, run.2 < gap.1 ∨ gap.2 < run.1 := by
    decide +kernel
  obtain ⟨gap, hgap, hle, hge⟩ := exists_blankRun hc
  refine List.any_eq_false.2 fun run hrun => ?_
  have := hapart run hrun gap hgap
  simp only [Bool.and_eq_true, decide_eq_true_eq]
  omega

end KnitPattern.Text
