/-
  Characters of YAML files: which are allowed, which end a line or a word, and which are
  digits. A file is read in pieces, and a character that is not allowed is met with its piece.
-/

namespace KnitPattern.Yaml

/-- The characters that a file may hold. -/
def isAllowed (c : Char) : Bool :=
  let n := c.toNat
  n == 0x9 || n == 0xA || n == 0xD || (0x20 ≤ n && n ≤ 0x7E) || n == 0x85 ||
    (0xA0 ≤ n && n ≤ 0xFFFD) || 0x10000 ≤ n

/-- Every carriage return, with the line feed after it if there is one, as a line feed. -/
def unifyBreaks : List Char → List Char
  | [] => []
  | '\r' :: '\n' :: cs => '\n' :: unifyBreaks cs
  | c :: cs => (if c == '\r' then '\n' else c) :: unifyBreaks cs

/-- How many characters of a file are a piece. -/
def pieceSize : Nat := 4096

/-- Where the piece with the character at a position begins. The first two pieces are read as
one. -/
def pieceStart (position : Nat) : Nat :=
  if position < 2 * pieceSize then 0 else position / pieceSize * pieceSize

/-- A text as far as it can be read: for a piece with a character that is not allowed, and all
that follows it, one such character stands. -/
def readable (s : List Char) : List Char :=
  let position := (s.takeWhile isAllowed).length
  if position = s.length then s else s.take (pieceStart position) ++ ['\x00']

/-- The characters that end a line, once carriage returns are gone. -/
def isBreak (c : Char) : Bool :=
  c == '\n' || c == '\u0085' || c == '\u2028' || c == '\u2029'

/-- What a line break stands for in the text of a scalar. -/
def breakText (c : Char) : Char :=
  if c == '\u0085' then '\n' else c

/-- Spaces, tabs and line breaks. -/
def isGap (c : Char) : Bool :=
  c == ' ' || c == '\t' || isBreak c

/-- Whether a text is at its end or begins with a gap. -/
def gapAhead : List Char → Bool
  | [] => true
  | c :: _ => isGap c

/-- Whether a text is at its end or begins with a space or a line break. -/
def spaceAhead : List Char → Bool
  | [] => true
  | c :: _ => c == ' ' || isBreak c

/-- Whether a line begins with a mark between documents, `---` or `...`. -/
def separatorAhead : List Char → Bool
  | '-' :: '-' :: '-' :: cs => gapAhead cs
  | '.' :: '.' :: '.' :: cs => gapAhead cs
  | _ => false

/-! ## Digits -/

def isDecimal (c : Char) : Bool :=
  '0' ≤ c && c ≤ '9'

/-- The value of a hexadecimal digit. -/
def hexDigit? (c : Char) : Option Nat :=
  if '0' ≤ c ∧ c ≤ '9' then some (c.toNat - '0'.toNat)
  else if 'a' ≤ c ∧ c ≤ 'f' then some (c.toNat - 'a'.toNat + 10)
  else if 'A' ≤ c ∧ c ≤ 'F' then some (c.toNat - 'A'.toNat + 10)
  else none

/-! ## Folding -/

/-- What the breaks after the first one leave of a gap between words: the first break alone is
a space, and with more it is nothing, unless it is a separator of its own. -/
def foldedBreaks (first : Char) (more : List Char) : List Char :=
  if breakText first ≠ '\n' then breakText first :: more
  else if more.isEmpty then [' '] else more

end KnitPattern.Yaml
