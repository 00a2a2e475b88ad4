/-
  The code points of a text. A text may hold halves of surrogate pairs, which are no
  characters: an escape can write one. In a string such a half takes two characters, a mark
  and a private-use character; the mark itself is written twice, and every other character
  stands for itself. No code point is lost and none is mistaken for another
  (`codePoints_written`), and two halves side by side stay two.
-/

namespace KnitPattern.Text

/-- A character, or half of a surrogate pair, given by its distance from the first one. -/
inductive CodePoint where
  | char (c : Char)
  | half (n : Fin 0x800)
  deriving DecidableEq

/-- The character that marks a half. It has no use of its own. -/
def halfMark : Char := Char.ofNat 0x10FFFF

/-- The private-use characters after a mark begin here. -/
def halfBase : Nat := 0x100000

namespace CodePoint

/-- The code point of a number. -/
def ofNat? (n : Nat) : Option CodePoint :=
  if h : 0xD800 ≤ n ∧ n < 0xE000 then some (.half ⟨n - 0xD800, by omega⟩)
  else if n.isValidChar then some (.char (Char.ofNat n))
  else none

def toNat : CodePoint → Nat
  | char c => c.toNat
  | half n => 0xD800 + n

/-- A code point in a string. -/
def written : CodePoint → List Char
  | char c => if c = halfMark then [c, c] else [c]
  | half n => [halfMark, Char.ofNat (halfBase + n)]

/-- The code point of a character after a mark. -/
def ofMarked (c : Char) : CodePoint :=
  if h : halfBase ≤ c.toNat ∧ c.toNat < halfBase + 0x800 then
    .half ⟨c.toNat - halfBase, by omega⟩
  else .char c

theorem ofMarked_halfMark : ofMarked halfMark = .char halfMark := by
  decide

theorem toNat_halfChar (n : Fin 0x800) : (Char.ofNat (halfBase + n)).toNat = halfBase + n := by
  have hn := n.isLt
  have valid : (halfBase + n.val).isValidChar := by
    unfold Nat.isValidChar halfBase
    omega
  rw [Char.ofNat, dif_pos valid]
  rfl

theorem ofMarked_halfChar (n : Fin 0x800) : ofMarked (Char.ofNat (halfBase + n)) = .half n := by
  simp [ofMarked, toNat_halfChar]

end CodePoint

/-- The code points of a text. -/
def codePoints : List Char → List CodePoint
  | [] => []
  | [c] => [.char c]
  | c :: d :: cs =>
    if c = halfMark then .ofMarked d :: codePoints cs else .char c :: codePoints (d :: cs)

theorem codePoints_cons {c : Char} (h : c ≠ halfMark) (cs : List Char) :
    codePoints (c :: cs) = .char c :: codePoints cs := by
  cases cs with
  | nil => rfl
  | cons d ds => simp [codePoints, h]

theorem codePoints_written (ps : List CodePoint) :
    codePoints (ps.flatMap CodePoint.written) = ps := by
  induction ps with
  | nil => rfl
  | cons p ps ih =>
    cases p with
    | char c =>
      by_cases h : c = halfMark
      · subst h
        simp [CodePoint.written, codePoints, CodePoint.ofMarked_halfMark, ih]
      · simp [CodePoint.written, h, codePoints_cons h, ih]
    | half n => simp [CodePoint.written, codePoints, CodePoint.ofMarked_halfChar, ih]

/-- The text of code points. -/
def ofCodePoints (ps : List CodePoint) : String :=
  String.ofList (ps.flatMap CodePoint.written)

/-- The text of characters. -/
def ofChars (cs : List Char) : List Char :=
  cs.flatMap fun c => (CodePoint.char c).written

/-- The characters of a text, if it holds nothing else. -/
def chars? (s : String) : Option (List Char) :=
  (codePoints s.toList).mapM fun
    | .char c => some c
    | .half _ => none

end KnitPattern.Text
