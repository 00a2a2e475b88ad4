/-
  Blank characters, and the two ways of removing them: trimming the ends of a text, and
  leaving one space between words. Trimming is stated for any class of
  characters, since quotation marks and full stops are removed the same way.
-/

namespace KnitPattern.Text

/-- The characters that separate words: the white space of Unicode together with the four
separators U+001C to U+001F. -/
def isBlank (c : Char) : Bool :=
  let n := c.toNat
  (0x9 ≤ n && n ≤ 0xD) || (0x1C ≤ n && n ≤ 0x20) || n == 0x85 || n == 0xA0 || n == 0x1680 ||
    (0x2000 ≤ n && n ≤ 0x200A) || n == 0x2028 || n == 0x2029 || n == 0x202F || n == 0x205F ||
    n == 0x3000

/-! ## Trimming -/

/-- Removes the characters of a class from the end of a text. -/
def stripEnd (p : Char → Bool) (s : List Char) : List Char :=
  (s.reverse.dropWhile p).reverse

/-- Removes the characters of a class from both ends of a text. -/
def strip (p : Char → Bool) (s : List Char) : List Char :=
  stripEnd p (s.dropWhile p)

/-- Removes the blanks from both ends of a text. -/
def trim (s : List Char) : List Char :=
  strip isBlank s

/-! ## One space between words -/

/-- The longest runs of characters that are not blank. -/
def words (s : List Char) : List (List Char) :=
  (s.splitOnP isBlank).filter (!·.isEmpty)

/-- The words of a text with one space between neighbours and none at the ends. -/
def oneSpaced (s : List Char) : List Char :=
  [' '].intercalate (words s)

end KnitPattern.Text
