/-
  Instruction tokens: the pieces of an instruction text between commas and semicolons,
  freed of quotation marks and of the full stop at the end.
-/
import KnitPattern.Text.Blank

namespace KnitPattern.Token

open Text

/-- Quotation marks, straight and curly. -/
def isQuoteMark (c : Char) : Bool :=
  c == '\x22' || c == '\x27' || c == '\u2018' || c == '\u2019' || c == '\u201C' || c == '\u201D'

/-- A piece of text without the blanks and quotation marks around it. -/
def unquote (s : List Char) : List Char :=
  trim (strip isQuoteMark (trim s))

/-- A piece of text without the quotation marks around it and without full stops at its
end, which may stand inside or outside the marks. -/
def clean (s : List Char) : List Char :=
  unquote (stripEnd (· == '.') (unquote s))

/-- The characters between tokens. -/
def isDelimiter (c : Char) : Bool :=
  c == ',' || c == ';'

/-- The tokens of a text; pieces with nothing in them are left out. -/
def split (s : List Char) : List (List Char) :=
  ((s.splitOnP isDelimiter).map clean).filter (!·.isEmpty)

end KnitPattern.Token
