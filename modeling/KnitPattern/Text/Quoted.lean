/-
  Quoted texts, as messages and document texts show them: apostrophes around the text, or
  quotation marks if the text holds an apostrophe and no quotation mark; a character that
  cannot be shown, and half of a surrogate pair, is written by its code point.
-/
import KnitPattern.Text.CodePoint
import KnitPattern.Text.Printable

namespace KnitPattern.Text

/-- A number in hexadecimal, filled with zeros to a width. -/
def hexPadded (width n : Nat) : List Char :=
  let digits := Nat.toDigits 16 n
  List.replicate (width - digits.length) '0' ++ digits

/-- The escape of a code point. -/
def escapeCodePoint (n : Nat) : List Char :=
  if n < 0x100 then ['\\', 'x'] ++ hexPadded 2 n
  else if n < 0x10000 then ['\\', 'u'] ++ hexPadded 4 n
  else ['\\', 'U'] ++ hexPadded 8 n

/-- The escape with one letter of a line end or a tab. -/
def escapeLetter? : Char → Option Char
  | '\n' => some 'n'
  | '\r' => some 'r'
  | '\t' => some 't'
  | _ => none

/-- One character between the marks `mark`. -/
def quoteChar (mark c : Char) : List Char :=
  if c == mark || c == '\\' then ['\\', c]
  else if isPrintable c then [c]
  else match escapeLetter? c with
    | some letter => ['\\', letter]
    | none => escapeCodePoint c.toNat

/-- One code point between the marks `mark`. -/
def quotePoint (mark : Char) : CodePoint → List Char
  | .char c => quoteChar mark c
  | .half n => escapeCodePoint (CodePoint.half n).toNat

/-- The marks around a text. -/
def quoteMark (cs : List Char) : Char :=
  if cs.contains '\x27' && !cs.contains '\x22' then '\x22' else '\x27'

/-- A text between its marks. -/
def quote (s : String) : String :=
  let cs := s.toList
  let mark := quoteMark cs
  String.ofList ([mark] ++ (codePoints cs).flatMap (quotePoint mark) ++ [mark])

end KnitPattern.Text
