/-
  Quoted texts. A letter of ASCII is shown as it is and no letter is a mark, so texts that differ
  in the case of letters have quoted forms that differ in the case of letters (`lower_quote`). A
  character that ends a line is not printable and is written as an escape, so a quoted text stands
  within one line (`unbroken_quote`).
-/
import KnitPattern.Proofs.Text.Caseless
import KnitPattern.Text.Line
import KnitPattern.Text.Quoted

namespace KnitPattern.Text

/-! ## Code points -/

def CodePoint.lower : CodePoint → CodePoint
  | char c => char c.toLower
  | half n => half n

theorem toLower_eq_halfMark_iff (c : Char) : c.toLower = halfMark ↔ c = halfMark := by
  rcases toLower_eq_self_or c with hself | ⟨hupper, hlower⟩
  · rw [hself]
  · constructor
    · intro h
      rw [h] at hlower
      cases hlower
    · rintro rfl
      cases hupper

theorem CodePoint.ofMarked_toLower (c : Char) : ofMarked c.toLower = (ofMarked c).lower := by
  have hletter : ∀ d : Char, d.toNat < halfBase → ofMarked d = char d := fun d hd =>
    dif_neg fun h => Nat.not_lt.2 h.1 hd
  rcases toLower_eq_self_or c with hself | ⟨hupper, hlower⟩
  · rw [hself]
    unfold ofMarked
    split
    · rfl
    · rw [lower, hself]
  · have hupper := isUpper_iff.1 hupper
    have hlower := isLower_iff.1 hlower
    rw [hletter c (by unfold halfBase; omega), hletter c.toLower (by unfold halfBase; omega)]
    rfl

theorem codePoints_lower (cs : List Char) :
    codePoints (lower cs) = (codePoints cs).map CodePoint.lower := by
  fun_induction codePoints cs with
  | case1 => rfl
  | case2 c => rfl
  | case3 d cs ih =>
    rw [lower_cons, lower_cons, codePoints, if_pos ((toLower_eq_halfMark_iff _).2 rfl), ih,
      CodePoint.ofMarked_toLower]
    rfl
  | case4 c d cs hmark ih =>
    rw [lower_cons, lower_cons, codePoints, if_neg (mt (toLower_eq_halfMark_iff c).1 hmark),
      ← lower_cons, ih]
    rfl

/-! ## Marks and characters between them -/

theorem contains_lower (q : Char) [Unlettered (q == ·)] (cs : List Char) :
    (lower cs).contains q = cs.contains q := by
  induction cs with
  | nil => rfl
  | cons c cs ih =>
    rw [lower_cons, List.contains_cons, List.contains_cons, ih, apply_toLower (q == ·)]

instance : Unlettered ('\x27' == ·) := unlettered (by decide)

instance : Unlettered ('\x22' == ·) := unlettered (by decide)

theorem quoteMark_lower (cs : List Char) : quoteMark (lower cs) = quoteMark cs := by
  unfold quoteMark
  rw [contains_lower, contains_lower]

theorem quoteMark_eq_or (cs : List Char) : quoteMark cs = '\x22' ∨ quoteMark cs = '\x27' := by
  unfold quoteMark
  split
  · exact .inl rfl
  · exact .inr rfl

theorem isPrintable_of_isAlpha {c : Char} (hc : c.isAlpha = true) : isPrintable c = true := by
  refine List.any_eq_true.2 ⟨(0x20, 0x7E), .head _, ?_⟩
  rw [isAlpha_eq, Bool.or_eq_true, isUpper_iff, isLower_iff] at hc
  simp only [Bool.and_eq_true, decide_eq_true_eq]
  omega

/-- A letter is shown as it is. -/
theorem quoteChar_of_isAlpha {mark c : Char} (hmark : mark.isAlpha = false)
    (hc : c.isAlpha = true) : quoteChar mark c = [c] := by
  have hmarked : (c == mark || c == '\\') = false := by
    refine Bool.eq_false_iff.2 fun h => ?_
    rw [Bool.or_eq_true, beq_iff_eq, beq_iff_eq] at h
    rcases h with rfl | rfl
    · rw [hmark] at hc
      cases hc
    · cases hc
  unfold quoteChar
  rw [hmarked, isPrintable_of_isAlpha hc]
  rfl

theorem lower_quotePoint {mark : Char} (hmark : mark.isAlpha = false) (p : CodePoint) :
    lower (quotePoint mark p.lower) = lower (quotePoint mark p) := by
  cases p with
  | half n => rfl
  | char c =>
    show lower (quoteChar mark c.toLower) = lower (quoteChar mark c)
    rcases toLower_eq_self_or_isAlpha c with hself | ⟨halpha, halpha'⟩
    · rw [hself]
    · rw [quoteChar_of_isAlpha hmark halpha, quoteChar_of_isAlpha hmark halpha']
      exact congrArg (fun d => [d]) (congrFun toLower_comp_toLower c)

/-- A text in small letters is quoted as the text is, but for the case of letters. -/
theorem lower_quote (s : String) :
    lower (quote (String.ofList (lower s.toList))).toList = lower (quote s).toList := by
  have hmark : (quoteMark s.toList).isAlpha = false := by
    rcases quoteMark_eq_or s.toList with h | h <;> rw [h] <;> decide
  have hpoints : lower ((codePoints (lower s.toList)).flatMap (quotePoint (quoteMark s.toList))) =
      lower ((codePoints s.toList).flatMap (quotePoint (quoteMark s.toList))) := by
    rw [codePoints_lower, List.flatMap_map, lower, lower, List.map_flatMap, List.map_flatMap]
    exact List.flatMap_congr fun p _ => lower_quotePoint hmark p
  simp only [quote, String.toList_ofList, quoteMark_lower, lower_append, hpoints]

/-! ## Quoted texts and lines -/

theorem isLineBreak_eq_false_of_isPrintable {c : Char} (hc : isPrintable c = true) :
    isLineBreak c = false := by
  have hruns : ∀ n ∈ [0xA, 0xB, 0xC, 0xD, 0x1C, 0x1D, 0x1E, 0x85, 0x2028, 0x2029],
      (printableRuns.any fun run => run.1 ≤ n && n ≤ run.2) = false := by
    decide +kernel
  refine Bool.eq_false_iff.2 fun hbreak => ?_
  have hmem : c.toNat ∈ [0xA, 0xB, 0xC, 0xD, 0x1C, 0x1D, 0x1E, 0x85, 0x2028, 0x2029] := by
    simp [isLineBreak] at hbreak ⊢
    omega
  rw [isPrintable, hruns _ hmem] at hc
  cases hc

theorem unbroken_toDigits (n : Nat) : ∀ c ∈ Nat.toDigits 16 n, isLineBreak c = false := by
  have hdigit : ∀ d < 16, isLineBreak (Nat.digitChar d) = false := by decide
  induction n using Nat.strongRecOn with
  | ind n ih =>
    rw [Nat.toDigits_eq_if (by decide)]
    split
    · next hlt => simpa using hdigit n hlt
    · next hge =>
      refine List.forall_mem_append.2 ⟨ih (n / 16) (by omega), ?_⟩
      simpa using hdigit (n % 16) (by omega)

theorem unbroken_hexPadded (width n : Nat) : ∀ c ∈ hexPadded width n, isLineBreak c = false := by
  refine List.forall_mem_append.2 ⟨fun c hc => ?_, unbroken_toDigits n⟩
  rw [List.eq_of_mem_replicate hc]
  rfl

theorem unbroken_escapeCodePoint (n : Nat) :
    ∀ c ∈ escapeCodePoint n, isLineBreak c = false := by
  have hmarked : ∀ letter width, isLineBreak letter = false →
      ∀ c ∈ ['\\', letter] ++ hexPadded width n, isLineBreak c = false := by
    intro letter width hletter
    refine List.forall_mem_append.2 ⟨?_, unbroken_hexPadded width n⟩
    exact List.forall_mem_cons.2 ⟨rfl, by simpa using hletter⟩
  unfold escapeCodePoint
  split
  · exact hmarked 'x' 2 rfl
  split
  · exact hmarked 'u' 4 rfl
  · exact hmarked 'U' 8 rfl

theorem unbroken_quoteChar {mark : Char} (hmark : isLineBreak mark = false) (c : Char) :
    ∀ d ∈ quoteChar mark c, isLineBreak d = false := by
  unfold quoteChar
  split
  · next hc =>
    rw [Bool.or_eq_true, beq_iff_eq, beq_iff_eq] at hc
    refine List.forall_mem_cons.2 ⟨rfl, List.forall_mem_singleton.2 ?_⟩
    rcases hc with rfl | rfl
    · exact hmark
    · rfl
  split
  · next hc => exact List.forall_mem_singleton.2 (isLineBreak_eq_false_of_isPrintable hc)
  split
  · next letter hletter =>
    refine List.forall_mem_cons.2 ⟨rfl, List.forall_mem_singleton.2 ?_⟩
    unfold escapeLetter? at hletter
    split at hletter
    all_goals cases hletter
    all_goals rfl
  · exact unbroken_escapeCodePoint _

/-- No character of a quoted text ends a line. -/
theorem unbroken_quote (s : String) : ∀ c ∈ (quote s).toList, isLineBreak c = false := by
  have hmark : isLineBreak (quoteMark s.toList) = false := by
    rcases quoteMark_eq_or s.toList with h | h <;> rw [h] <;> rfl
  have hpoints : ∀ c ∈ (codePoints s.toList).flatMap (quotePoint (quoteMark s.toList)),
      isLineBreak c = false := by
    intro c hc
    obtain ⟨p, -, hc⟩ := List.mem_flatMap.1 hc
    cases p with
    | char d => exact unbroken_quoteChar hmark d c hc
    | half n => exact unbroken_escapeCodePoint _ c hc
  rw [quote, String.toList_ofList]
  refine List.forall_mem_append.2 ⟨List.forall_mem_append.2 ⟨?_, hpoints⟩, ?_⟩
  · exact List.forall_mem_singleton.2 hmark
  · exact List.forall_mem_singleton.2 hmark

end KnitPattern.Text
