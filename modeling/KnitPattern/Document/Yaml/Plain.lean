/-
  Plain scalars of YAML: words without quotation marks, which may go on over several lines if
  these are indented far enough.
-/
import KnitPattern.Document.Yaml.Character

namespace KnitPattern.Yaml

/-- The characters that structure a list or mapping between brackets. -/
def isFlowMark (c : Char) : Bool :=
  c == ',' || c == '[' || c == ']' || c == '\x7b' || c == '\x7d'

/-- Whether a plain scalar may begin a text. -/
def plainAhead (inFlow : Bool) : List Char → Bool
  | [] => false
  | c :: cs =>
    let isMark := isFlowMark c || "-?:#&*!|>'\"%@\x60".toList.contains c
    !(isGap c || isMark) ||
      (!gapAhead cs && (c == '-' || (!inFlow && (c == '?' || c == ':'))))

/-- Whether the colon before a text ends a plain scalar. -/
def colonEnds (inFlow : Bool) : List Char → Bool
  | [] => true
  | c :: _ => isGap c || (inFlow && isFlowMark c)

/-- The longest piece of a plain scalar without gaps, and what follows. -/
def plainPiece (inFlow : Bool) : List Char → List Char × List Char
  | [] => ([], [])
  | c :: cs =>
    if isGap c || (c == ':' && colonEnds inFlow cs) ||
        (inFlow && (isFlowMark c || c == '?')) then ([], c :: cs)
    else
      let (piece, rest) := plainPiece inFlow cs
      (c :: piece, rest)

/-- The spaces and breaks after a line break: the breaks, how far the next word is indented,
and what follows; no indentation is given in front of a mark between documents. -/
def plainBreaks (column : Nat) : List Char → List Char × Option Nat × List Char
  | [] => ([], some column, [])
  | c :: cs =>
    if c == ' ' then plainBreaks (column + 1) cs
    else if isBreak c then
      if separatorAhead cs then ([], none, cs)
      else
        let (breaks, column, rest) := plainBreaks 0 cs
        (breakText c :: breaks, column, rest)
    else ([], some column, c :: cs)

/-- A gap in a plain scalar: what it stands for, the indentation of the next word if a line
ended, and what follows. -/
structure PlainGap where
  text : List Char
  newLine : Bool
  indent : Option Nat
  rest : List Char

/-- The gap that begins a text. -/
def plainGap (s : List Char) : PlainGap :=
  let rest := s.dropWhile (· == ' ')
  match rest with
  | [] => ⟨s, false, none, []⟩
  | c :: cs =>
    if isBreak c then
      if separatorAhead cs then ⟨[], true, none, cs⟩
      else
        match plainBreaks 0 cs with
        | (breaks, some column, rest) => ⟨foldedBreaks c breaks, true, some column, rest⟩
        | (_, none, rest) => ⟨[], true, none, rest⟩
    else ⟨s.takeWhile (· == ' '), false, none, rest⟩

/-- Whether the word after a gap belongs to the scalar, whose lines are indented by at least
`indent` outside brackets. -/
def PlainGap.continues (inFlow : Bool) (indent : Int) (g : PlainGap) : Bool :=
  !g.text.isEmpty && g.rest.head? != some '#' &&
    (inFlow || g.indent.all fun column => indent ≤ column)

/-- The text of a plain scalar, whether a line ended after its last word, and what follows. -/
def plainText (inFlow : Bool) (indent : Int) :
    (fuel : Nat) → List Char → List Char × Bool × List Char
  | 0, s => ([], false, s)
  | fuel + 1, s =>
    let (piece, rest) := plainPiece inFlow s
    let gap := plainGap rest
    if gap.continues inFlow indent then
      let (more, newLine, rest) := plainText inFlow indent fuel gap.rest
      if more.isEmpty then (piece, gap.newLine, rest)
      else (piece ++ gap.text ++ more, newLine, rest)
    else (piece, gap.newLine, gap.rest)

/-- The plain scalar that begins a text, whether a line ended after it, and what follows. -/
def plainScalar (inFlow : Bool) (indent : Int) (s : List Char) : List Char × Bool × List Char :=
  plainText inFlow indent (s.length + 1) s

end KnitPattern.Yaml
