/-
  Logical lines: a line that starts a round together with the lines that continue it. Blank
  lines and notes count for nothing, and a continuation before the first round is a stray.
-/
import KnitPattern.Round.Header
import KnitPattern.Text.Line

namespace KnitPattern

open Text Scan

/-- A line of a pattern with its number, counted from 1. -/
structure Line where
  number : Nat
  text : List Char
  deriving DecidableEq

namespace Line

/-- How a note begins. -/
def noteScan : Scan Unit := do
  word "note"
  blanks
  let _ ← char (· == ':')

/-- Whether a line is a note. -/
def isNote (l : Line) : Bool :=
  (noteScan l.text).isSome

/-- Whether a line starts a round. -/
def isStart (l : Line) : Bool :=
  (Header.startScan l.text).isSome

/-- The lines of a text that count: trimmed, and neither blank nor notes. -/
def significant (text : List Char) : List Line :=
  let numbered := (lines text).zipIdx 1 |>.map fun (l, n) => ⟨n, trim l⟩
  numbered.filter fun l => !l.text.isEmpty && !l.isNote

/-- A line and the lines that continue it, with a space between them. -/
def joined (first : Line) (more : List Line) : Line :=
  ⟨first.number, [' '].intercalate ((first :: more).map (·.text))⟩

/-- The lines before the first line that starts a round, and the logical lines. -/
def grouped : List Line → List Line × List Line
  | [] => ([], [])
  | l :: ls =>
    let (more, groups) := grouped ls
    if l.isStart then ([], joined l more :: groups) else (l :: more, groups)

end Line

end KnitPattern
