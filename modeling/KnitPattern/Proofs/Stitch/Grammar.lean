/-
  The grammar of instructions. `Shape.Writes` gives the texts of each shape, with the stitches
  that an instruction so written reads and makes and the cells it fills. A shape's scanner reads
  just these texts (`exists_of_writes`, `exists_writes`), and what it reads off one of them has
  those counts, if its numeral is read at all.
-/
import KnitPattern.Proofs.Numeral
import KnitPattern.Proofs.Stitch.Count
import KnitPattern.Proofs.Text.Phrase

namespace KnitPattern

open Text Scan

/-! ## Counts as they are written -/

/-- A count as it is written: an ASCII digit from 1 to 9, then decimal digits of any script. -/
structure WrittenCount where
  first : Char
  rest : List Char
  first_mem : 0x31 ≤ first.toNat ∧ first.toNat ≤ 0x39
  rest_digits : ∀ c ∈ rest, isDigit c = true

namespace WrittenCount

variable (n : WrittenCount)

def text : List Char :=
  n.first :: n.rest

/-- The count that is read. -/
def count : Count :=
  ⟨⟨n.first.toNat - 0x31, by have := n.first_mem; omega⟩, n.rest⟩

/-- The number that the digits stand for. -/
def value : Nat :=
  Numeral.value n.text

theorem lead?_first : Count.lead? n.first = some n.count.lead :=
  dif_pos n.first_mem

theorem isDigit_first : isDigit n.first = true :=
  Count.isDigit_of_lead? n.lead?_first

theorem all_isDigit : ∀ c ∈ n.text, isDigit c = true :=
  List.forall_mem_cons.2 ⟨n.isDigit_first, n.rest_digits⟩

theorem ends {p : Char → Bool} (hp : ∀ c, isDigit c = true → p c = false) (r : List Char) :
    Ends p (n.text ++ r) :=
  ends_cons (hp n.first n.isDigit_first) _

theorem value_count : n.count.value = n.value := by
  have hfirst : (digit? n.first).getD 0 = n.count.lead.1 + 1 := by
    rw [Count.digit?_of_lead? n.lead?_first]
    rfl
  show Numeral.extend (n.count.lead + 1) n.rest =
    Numeral.extend (10 * 0 + (digit? n.first).getD 0) n.rest
  rw [hfirst, Nat.mul_zero, Nat.zero_add]

theorem value_pos : 0 < n.value := by
  rw [← n.value_count]
  exact n.count.value_pos

theorem scan_append {r : List Char} (hr : Ends isDigit r) :
    Count.scan (n.text ++ r) = some (n.count, r) := by
  have hfirst : pick Count.lead? (n.text ++ r) = some (n.count.lead, n.rest ++ r) := by
    show (Count.lead? n.first).map (fun k => (k, n.rest ++ r)) = _
    rw [n.lead?_first, Option.map_some]
  rw [Count.scan, bind_of_some hfirst, bind_of_some (run_append n.rest_digits hr)]
  rfl

theorem exists_of_scan {s r : List Char} {k : Count} (h : Count.scan s = some (k, r)) :
    ∃ n : WrittenCount, k = n.count ∧ s = n.text ++ r := by
  obtain ⟨lead, t, hlead, h⟩ := bind_eq_some.1 h
  obtain ⟨rest, t', hrest, h⟩ := bind_eq_some.1 h
  cases h
  obtain ⟨rfl, hdigits, -⟩ := run_eq_some hrest
  cases s with
  | nil => cases hlead
  | cons c s =>
    obtain ⟨k, hk, heq⟩ := Option.map_eq_some_iff.1 hlead
    cases heq
    obtain ⟨hmem, hval⟩ := Option.dite_none_right_eq_some.1 hk
    cases hval
    exact ⟨⟨c, rest, hmem, hdigits⟩, rfl, rfl⟩

/-- A count that is read is the number of its digits. -/
theorem eq_of_map_read {f : { k : Nat // 0 < k } → Stitch.Counts} {c : Stitch.Counts}
    (h : n.count.read.map f = .ok c) : c = f ⟨n.value, n.value_pos⟩ := by
  unfold Count.read at h
  split at h
  · cases h
    exact congrArg f (Subtype.ext n.value_count)
  · cases h

end WrittenCount

/-! ## The texts of each shape -/

namespace Stitch

/-- As many stitches made as read, one cell for each. -/
def Counts.worked (n : WrittenCount) : Counts :=
  ⟨n.value, n.value, n.value, n.value_pos⟩

/-- Stitches worked together into one, which fills the cells of all of them. -/
def Counts.together (n : WrittenCount) : Counts :=
  ⟨n.value, 1, n.value, n.value_pos⟩

end Stitch

namespace Shape

/-- How the loops of a decrease may be twisted, with the blanks before it. -/
abbrev Twist := Gap × SpelledIn ["tbl", "tlb"]

def twistText (x : Twist) : List Char :=
  x.1.1 ++ x.2.1

/-- That the stitches of a decrease come from a cable needle, with the blanks before it. -/
abbrev FromNeedle := WideGap × Phrase ["from", "cn"]

def fromNeedleText (x : FromNeedle) : List Char :=
  x.1.1 ++ x.2.1

/-- Where the held stitches are. -/
abbrev Side := Phrase ["to", "the", "back"] ⊕ Phrase ["in", "front"]

def sideText (x : Side) : List Char :=
  x.elim (·.1) (·.1)

/-- An instruction of the shape may be written so, and then has those counts. -/
inductive Writes : Shape → List Char → Stitch.Counts → Prop where
  | cableHold (place : Spelled "place") (g₁ : WideGap) (n : WrittenCount) (g₂ : WideGap)
      (st : Spelled "st") (plural : Option (Spelled "s")) (g₃ : WideGap)
      (hold : Phrase ["on", "cn", "and", "hold"]) (g₄ : WideGap) (side : Side) :
      Writes .cableHold
        (place.1 ++ (g₁.1 ++ (n.text ++ (g₂.1 ++ (st.1 ++ (plural.elim [] (·.1) ++
          (g₃.1 ++ (hold.1 ++ (g₄.1 ++ sideText side)))))))))
        ⟨0, 0, 1, Nat.one_pos⟩
  | cableFromNeedle (k : Spelled "k") (n : WrittenCount) (needle : FromNeedle) :
      Writes .cableFromNeedle (k.1 ++ (n.text ++ fromNeedleText needle)) (.worked n)
  | knitYarnKnit (k₁ : Spelled "k1") (g₁ : Gap) (yo : Spelled "yo") (g₂ : Gap)
      (k₂ : Spelled "k1") :
      Writes .knitYarnKnit (k₁.1 ++ (g₁.1 ++ (yo.1 ++ (g₂.1 ++ k₂.1)))) ⟨1, 3, 1, Nat.one_pos⟩
  | yarnOver (yo : Spelled "yo") : Writes .yarnOver yo.1 ⟨0, 1, 1, Nat.one_pos⟩
  | centeredDecrease (cdd : Spelled "cdd") :
      Writes .centeredDecrease cdd.1 ⟨3, 1, 3, Nat.succ_pos 2⟩
  | decrease (kp : SpelledIn ["k", "p"]) (n : WrittenCount) (tog : Spelled "tog")
      (twist : Option Twist) (needle : Option FromNeedle) :
      Writes .decrease
        (kp.1 ++ (n.text ++ (tog.1 ++
          (twist.elim [] twistText ++ needle.elim [] fromNeedleText))))
        (.together n)
  | slip (sl : Spelled "sl") (gap : Gap) (n : WrittenCount) :
      Writes .slip (sl.1 ++ (gap.1 ++ n.text)) (.worked n)
  | counted (kp : SpelledIn ["k", "p"]) (n : WrittenCount) :
      Writes .counted (kp.1 ++ n.text) (.worked n)
  | single (kp : SpelledIn ["k", "p"]) : Writes .single kp.1 ⟨1, 1, 1, Nat.one_pos⟩

/-! ## What the scanners read -/

theorem knitOrPurl_append (kp : SpelledIn ["k", "p"]) (r : List Char) :
    knitOrPurl (kp.1 ++ r) = some ((), r) :=
  kp.append rfl (by decide) r

theorem whole_of_append_nil {q : Scan Stitch} {t : List Char} {st : Stitch}
    (h : q (t ++ []) = some (st, [])) : whole q t = some st := by
  rw [List.append_nil] at h
  exact whole_eq_some.2 h

/-- Reads that the loops of a decrease are twisted. -/
def twist : Scan Unit := do
  blanks
  word "tbl" <|> word "tlb"

/-- Reads that stitches come from a cable needle. -/
def fromNeedle : Scan Unit := do
  blanks1
  phrase ["from", "cn"]

theorem twist_append (x : Twist) (r : List Char) : twist (twistText x ++ r) = some ((), r) := by
  have hword := x.2.ends (fun _ => not_isBlank_of_isCased) (by decide) r
  rw [twist, twistText, List.append_assoc, bind_of_some (blanks_append x.1.2 hword)]
  exact x.2.append rfl (by decide) r

theorem fromNeedle_append (x : FromNeedle) (r : List Char) :
    fromNeedle (fromNeedleText x ++ r) = some ((), r) := by
  have hphrase := x.2.2.ends (fun _ => not_isBlank_of_isCased) (by decide) r
  rw [fromNeedle, fromNeedleText, List.append_assoc,
    bind_of_some (blanks1_append x.1.2.1 x.1.2.2 hphrase)]
  exact x.2.2.append (by decide) r

/-- The word after the blanks tells a needle from twisted loops. -/
theorem twist_of_needle (needle : Option FromNeedle) :
    twist (needle.elim [] fromNeedleText ++ []) = none := by
  cases needle with
  | none => rfl
  | some x =>
    have hphrase := x.2.2.ends (fun _ => not_isBlank_of_isCased) (by decide) []
    have hfrom : Ends (foldCase · == 't') (x.2.1 ++ []) := by
      obtain ⟨v, r, hv⟩ := x.2.2.exists_spelled
      rw [hv, List.append_assoc]
      exact v.ends_of_head rfl (by decide) _
    rw [Option.elim_some, twist, fromNeedleText, List.append_assoc,
      bind_of_some (blanks_append x.1.2.2 hphrase)]
    exact (orElse_of_none (letters_of_ends hfrom)).trans (letters_of_ends hfrom)

theorem side_append (x : Side) (r : List Char) :
    (phrase ["to", "the", "back"] <|> phrase ["in", "front"]) (sideText x ++ r) =
      some ((), r) := by
  cases x with
  | inl back => exact orElse_of_some (back.2.append (by decide) r)
  | inr front =>
    obtain ⟨v, t, hv⟩ := front.2.exists_spelled
    have hto : word "to" (front.1 ++ r) = none := by
      rw [hv, List.append_assoc]
      exact letters_of_ends (v.ends_of_head rfl (by decide) _)
    exact (orElse_of_none (bind_of_none hto)).trans (front.2.append (by decide) r)

theorem ends_sideText (x : Side) (r : List Char) : Ends isBlank (sideText x ++ r) := by
  cases x with
  | inl back => exact back.2.ends (fun _ => not_isBlank_of_isCased) (by decide) r
  | inr front => exact front.2.ends (fun _ => not_isBlank_of_isCased) (by decide) r

/-- The text of a shape is read by its scanner, and as a stitch of the counts of the text. -/
theorem exists_of_writes {a : Shape} {t : List Char} {c : Stitch.Counts} (h : Writes a t c) :
    ∃ st, whole a.scan t = some st ∧ ∀ k, st.counts = .ok k → k = c := by
  have hblank : ∀ d, isDigit d = true → isBlank d = false := fun _ => not_isBlank_of_isDigit
  have hdigit : ∀ d, isBlank d = true → isDigit d = false := fun _ => not_isDigit_of_isBlank
  cases h with
  | cableHold place g₁ n g₂ st plural g₃ hold g₄ side =>
    refine ⟨.cableHold n.count, whole_of_append_nil ?_, fun k hk => by cases hk; rfl⟩
    have hgap := ends_append g₂.2.1 fun d hd => hdigit d (g₂.2.2 d hd)
    have hst := st.ends (fun _ => not_isBlank_of_isCased) (by decide) (by decide)
    have hplural : ∀ r, word "s" (g₃.1 ++ r) = none := fun r =>
      letters_of_ends (g₃.ends (by decide) r)
    have hhold := hold.2.ends (fun _ => not_isBlank_of_isCased) (by decide)
    simp only [List.append_assoc]
    rw [scan, word, bind_of_some (letters_append place.2),
      bind_of_some (blanks1_append g₁.2.1 g₁.2.2 (n.ends hblank _)),
      bind_of_some (n.scan_append (hgap _)),
      bind_of_some (blanks1_append g₂.2.1 g₂.2.2 (hst _)), word,
      bind_of_some (letters_append st.2),
      bind_of_some (Spelled.optional_elim_append plural (hplural _)),
      bind_of_some (blanks1_append g₃.2.1 g₃.2.2 (hhold _)),
      bind_of_some (hold.2.append (by decide) _),
      bind_of_some (blanks1_append g₄.2.1 g₄.2.2 (ends_sideText side _)),
      bind_of_some (side_append side _)]
    rfl
  | cableFromNeedle k n needle =>
    refine ⟨.cableFromNeedle n.count, whole_of_append_nil ?_, fun k hk => n.eq_of_map_read hk⟩
    have hgap := ends_append needle.1.2.1 fun d hd => hdigit d (needle.1.2.2 d hd)
    have hphrase := needle.2.2.ends (fun _ => not_isBlank_of_isCased) (by decide)
    simp only [List.append_assoc, fromNeedleText]
    rw [scan, word, bind_of_some (letters_append k.2), bind_of_some (n.scan_append (hgap _)),
      bind_of_some (blanks1_append needle.1.2.1 needle.1.2.2 (hphrase _)),
      bind_of_some (needle.2.2.append (by decide) _)]
    rfl
  | knitYarnKnit k₁ g₁ yo g₂ k₂ =>
    refine ⟨.knitYarnKnit, whole_of_append_nil ?_, fun k hk => by cases hk; rfl⟩
    have hyo := yo.ends (fun _ => not_isBlank_of_isCased) (by decide) (by decide)
    have hk := k₂.ends_of_letter (fun _ => not_isBlank_of_isCased) (l := 'k') rfl (by decide) []
    simp only [List.append_assoc]
    rw [scan, word, bind_of_some (letters_append k₁.2),
      bind_of_some (blanks_append g₁.2 (hyo _)), word, bind_of_some (letters_append yo.2),
      bind_of_some (blanks_append g₂.2 hk), bind_of_some (letters_append k₂.2)]
    rfl
  | yarnOver yo =>
    refine ⟨.yarnOver, whole_of_append_nil ?_, fun k hk => by cases hk; rfl⟩
    exact bind_of_some (letters_append yo.2)
  | centeredDecrease cdd =>
    refine ⟨.centeredDecrease, whole_of_append_nil ?_, fun k hk => by cases hk; rfl⟩
    exact bind_of_some (letters_append cdd.2)
  | decrease kp n tog loops needle =>
    refine ⟨.decrease n.count, whole_of_append_nil ?_, fun k hk => n.eq_of_map_read hk⟩
    have htog := tog.ends (fun _ => not_isDigit_of_isCased) (by decide) (by decide)
    have hloops := optional_append (fun x => twist_append x _) (twist_of_needle needle) loops
    have hneedle := optional_append (fun x => fromNeedle_append x []) rfl needle
    simp only [List.append_assoc]
    rw [scan, bind_of_some (knitOrPurl_append kp _), bind_of_some (n.scan_append (htog _)), word,
      bind_of_some (letters_append tog.2)]
    exact (bind_of_some hloops).trans (bind_of_some hneedle)
  | slip sl gap n =>
    refine ⟨.slip n.count, whole_of_append_nil ?_, fun k hk => n.eq_of_map_read hk⟩
    simp only [List.append_assoc]
    rw [scan, word, bind_of_some (letters_append sl.2),
      bind_of_some (blanks_append gap.2 (n.ends hblank _)),
      bind_of_some (n.scan_append (ends_nil _))]
    rfl
  | counted kp n =>
    refine ⟨.counted n.count, whole_of_append_nil ?_, fun k hk => n.eq_of_map_read hk⟩
    rw [List.append_assoc, scan, bind_of_some (knitOrPurl_append kp _),
      bind_of_some (n.scan_append (ends_nil _))]
    rfl
  | single kp =>
    exact ⟨.single, whole_of_append_nil (bind_of_some (knitOrPurl_append kp [])),
      fun k hk => by cases hk; rfl⟩

theorem exists_of_twist {s r : List Char} (h : twist s = some ((), r)) :
    ∃ x : Twist, s = twistText x ++ r := by
  obtain ⟨_, t, hgap, hword⟩ := bind_eq_some.1 h
  obtain ⟨gap, rfl⟩ := Gap.exists_of_blanks hgap
  obtain ⟨w, rfl⟩ := SpelledIn.exists_of_orElse hword
  exact ⟨(gap, w), (List.append_assoc _ _ _).symm⟩

theorem exists_of_fromNeedle {s r : List Char} (h : fromNeedle s = some ((), r)) :
    ∃ x : FromNeedle, s = fromNeedleText x ++ r := by
  obtain ⟨_, t, hgap, hphrase⟩ := bind_eq_some.1 h
  obtain ⟨gap, rfl⟩ := WideGap.exists_of_blanks1 hgap
  obtain ⟨p, rfl⟩ := Phrase.exists_of_phrase hphrase
  exact ⟨(gap, p), (List.append_assoc _ _ _).symm⟩

theorem exists_of_side {s r : List Char}
    (h : (phrase ["to", "the", "back"] <|> phrase ["in", "front"]) s = some ((), r)) :
    ∃ x : Side, s = sideText x ++ r := by
  rcases orElse_eq_some.1 h with h | ⟨-, h⟩
  · obtain ⟨back, rfl⟩ := Phrase.exists_of_phrase h
    exact ⟨.inl back, rfl⟩
  · obtain ⟨front, rfl⟩ := Phrase.exists_of_phrase h
    exact ⟨.inr front, rfl⟩

/-- Every text that is read by the scanner of a shape is a text of the shape. -/
theorem exists_writes {a : Shape} {t : List Char} {st : Stitch} (h : whole a.scan t = some st) :
    ∃ c, Writes a t c := by
  have h := whole_eq_some.1 h
  cases a with
  | cableHold =>
    obtain ⟨_, t1, hplace, h⟩ := bind_eq_some.1 h
    obtain ⟨_, t2, hg₁, h⟩ := bind_eq_some.1 h
    obtain ⟨_, t3, hn, h⟩ := bind_eq_some.1 h
    obtain ⟨_, t4, hg₂, h⟩ := bind_eq_some.1 h
    obtain ⟨_, t5, hst, h⟩ := bind_eq_some.1 h
    obtain ⟨_, t6, hplural, h⟩ := bind_eq_some.1 h
    obtain ⟨_, t7, hg₃, h⟩ := bind_eq_some.1 h
    obtain ⟨_, t8, hhold, h⟩ := bind_eq_some.1 h
    obtain ⟨_, t9, hg₄, h⟩ := bind_eq_some.1 h
    obtain ⟨_, t10, hside, h⟩ := bind_eq_some.1 h
    cases h
    obtain ⟨place, rfl⟩ := Spelled.exists_of_word hplace
    obtain ⟨g₁, rfl⟩ := WideGap.exists_of_blanks1 hg₁
    obtain ⟨n, -, rfl⟩ := WrittenCount.exists_of_scan hn
    obtain ⟨g₂, rfl⟩ := WideGap.exists_of_blanks1 hg₂
    obtain ⟨word, rfl⟩ := Spelled.exists_of_word hst
    obtain ⟨plural, rfl⟩ := Spelled.exists_elim_of_optional hplural
    obtain ⟨g₃, rfl⟩ := WideGap.exists_of_blanks1 hg₃
    obtain ⟨hold, rfl⟩ := Phrase.exists_of_phrase hhold
    obtain ⟨g₄, rfl⟩ := WideGap.exists_of_blanks1 hg₄
    obtain ⟨side, rfl⟩ := exists_of_side hside
    rw [List.append_nil]
    exact ⟨_, .cableHold place g₁ n g₂ word plural g₃ hold
      g₄ side⟩
  | cableFromNeedle =>
    obtain ⟨_, t1, hk, h⟩ := bind_eq_some.1 h
    obtain ⟨_, t2, hn, h⟩ := bind_eq_some.1 h
    obtain ⟨_, t3, hgap, h⟩ := bind_eq_some.1 h
    obtain ⟨_, t4, hphrase, h⟩ := bind_eq_some.1 h
    cases h
    obtain ⟨k, rfl⟩ := Spelled.exists_of_word hk
    obtain ⟨n, -, rfl⟩ := WrittenCount.exists_of_scan hn
    obtain ⟨gap, rfl⟩ := WideGap.exists_of_blanks1 hgap
    obtain ⟨phrase, rfl⟩ := Phrase.exists_of_phrase hphrase
    rw [List.append_nil]
    exact ⟨_, .cableFromNeedle k n (gap, phrase)⟩
  | knitYarnKnit =>
    obtain ⟨_, t1, hk₁, h⟩ := bind_eq_some.1 h
    obtain ⟨_, t2, hg₁, h⟩ := bind_eq_some.1 h
    obtain ⟨_, t3, hyo, h⟩ := bind_eq_some.1 h
    obtain ⟨_, t4, hg₂, h⟩ := bind_eq_some.1 h
    obtain ⟨_, t5, hk₂, h⟩ := bind_eq_some.1 h
    cases h
    obtain ⟨k₁, rfl⟩ := Spelled.exists_of_word hk₁
    obtain ⟨g₁, rfl⟩ := Gap.exists_of_blanks hg₁
    obtain ⟨yo, rfl⟩ := Spelled.exists_of_word hyo
    obtain ⟨g₂, rfl⟩ := Gap.exists_of_blanks hg₂
    obtain ⟨k₂, rfl⟩ := Spelled.exists_of_word hk₂
    rw [List.append_nil]
    exact ⟨_, .knitYarnKnit k₁ g₁ yo g₂ k₂⟩
  | yarnOver =>
    obtain ⟨_, t1, hyo, h⟩ := bind_eq_some.1 h
    cases h
    obtain ⟨yo, rfl⟩ := Spelled.exists_of_word hyo
    rw [List.append_nil]
    exact ⟨_, .yarnOver yo⟩
  | centeredDecrease =>
    obtain ⟨_, t1, hcdd, h⟩ := bind_eq_some.1 h
    cases h
    obtain ⟨cdd, rfl⟩ := Spelled.exists_of_word hcdd
    rw [List.append_nil]
    exact ⟨_, .centeredDecrease cdd⟩
  | decrease =>
    obtain ⟨_, t1, hkp, h⟩ := bind_eq_some.1 h
    obtain ⟨_, t2, hn, h⟩ := bind_eq_some.1 h
    obtain ⟨_, t3, htog, h⟩ := bind_eq_some.1 h
    obtain ⟨_, t4, hloops, h⟩ := bind_eq_some.1 h
    obtain ⟨_, t5, hneedle, h⟩ := bind_eq_some.1 h
    cases h
    obtain ⟨kp, rfl⟩ := SpelledIn.exists_of_orElse hkp
    obtain ⟨n, -, rfl⟩ := WrittenCount.exists_of_scan hn
    obtain ⟨tog, rfl⟩ := Spelled.exists_of_word htog
    obtain ⟨loops, rfl⟩ := exists_elim exists_of_twist hloops
    obtain ⟨needle, rfl⟩ := exists_elim exists_of_fromNeedle hneedle
    rw [List.append_nil]
    exact ⟨_, .decrease kp n tog loops needle⟩
  | slip =>
    obtain ⟨_, t1, hsl, h⟩ := bind_eq_some.1 h
    obtain ⟨_, t2, hgap, h⟩ := bind_eq_some.1 h
    obtain ⟨_, t3, hn, h⟩ := bind_eq_some.1 h
    cases h
    obtain ⟨sl, rfl⟩ := Spelled.exists_of_word hsl
    obtain ⟨gap, rfl⟩ := Gap.exists_of_blanks hgap
    obtain ⟨n, -, rfl⟩ := WrittenCount.exists_of_scan hn
    rw [List.append_nil]
    exact ⟨_, .slip sl gap n⟩
  | counted =>
    obtain ⟨_, t1, hkp, h⟩ := bind_eq_some.1 h
    obtain ⟨_, t2, hn, h⟩ := bind_eq_some.1 h
    cases h
    obtain ⟨kp, rfl⟩ := SpelledIn.exists_of_orElse hkp
    obtain ⟨n, -, rfl⟩ := WrittenCount.exists_of_scan hn
    rw [List.append_nil]
    exact ⟨_, .counted kp n⟩
  | single =>
    obtain ⟨_, t1, hkp, h⟩ := bind_eq_some.1 h
    cases h
    obtain ⟨kp, rfl⟩ := SpelledIn.exists_of_orElse hkp
    rw [List.append_nil]
    exact ⟨_, .single kp⟩

end Shape

end KnitPattern
