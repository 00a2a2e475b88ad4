/-
  Block scalars of YAML: indented lines after `|`, which keeps the line breaks, or `>`, which
  folds them. A sign after the mark says what becomes of the breaks at the end, and a digit
  how far the lines are indented.
-/
import KnitPattern.Document.Yaml.Character

namespace KnitPattern.Yaml

/-- What becomes of the line breaks at the end of a block: one is kept unless a sign says
that none or all are. -/
inductive Chomping where
  | strip
  | clip
  | keep
  deriving DecidableEq

/-- The chomping of a sign. -/
def Chomping.ofChar? : Char → Option Chomping
  | '-' => some .strip
  | '+' => some .keep
  | _ => none

/-- The value of a digit from 1 to 9. -/
def indentDigit? (c : Char) : Option Nat :=
  if '1' ≤ c ∧ c ≤ '9' then some (c.toNat - '0'.toNat) else none

/-- The sign and the digit after the mark of a block, in either order, and what follows. -/
def blockHeader (s : List Char) : Chomping × Option Nat × List Char :=
  match s with
  | [] => (.clip, none, [])
  | c :: cs =>
    match Chomping.ofChar? c, indentDigit? c with
    | some chomping, _ =>
      match cs with
      | d :: ds => match indentDigit? d with
        | some n => (chomping, some n, ds)
        | none => (chomping, none, cs)
      | [] => (chomping, none, [])
    | none, some n =>
      match cs with
      | d :: ds => match Chomping.ofChar? d with
        | some chomping => (chomping, some n, ds)
        | none => (.clip, some n, cs)
      | [] => (.clip, some n, [])
    | none, none => (.clip, none, s)

/-- What follows the line of the mark, on which only a comment may stand. -/
def blockFirstLine (s : List Char) : Option (List Char) :=
  let spaced := match s with
    | [] => true
    | c :: _ => c == ' ' || isBreak c
  let rest := s.dropWhile (· == ' ')
  let rest := if rest.head? == some '#' then rest.dropWhile (!isBreak ·) else rest
  if !spaced then none
  else match rest with
    | [] => some []
    | c :: cs => if isBreak c then some cs else none

/-- The blank lines at the start of a block: their breaks, the deepest indentation met, the
indentation at the end, and what follows. -/
def blockLead (column : Nat) : List Char → List Char × Nat × Nat × List Char
  | [] => ([], column, column, [])
  | c :: cs =>
    if c == ' ' then
      let (breaks, deepest, last, rest) := blockLead (column + 1) cs
      (breaks, max column deepest, last, rest)
    else if isBreak c then
      let (breaks, deepest, last, rest) := blockLead 0 cs
      (breakText c :: breaks, max column deepest, last, rest)
    else ([], column, column, c :: cs)

/-- The blank lines between lines of a block that is indented by `indent`: their breaks, the
indentation of what follows, up to that of the block, and what follows. -/
def blockBreaks (indent column : Nat) : List Char → List Char × Nat × List Char
  | [] => ([], column, [])
  | c :: cs =>
    if c == ' ' && column < indent then blockBreaks indent (column + 1) cs
    else if isBreak c then
      let (breaks, column, rest) := blockBreaks indent 0 cs
      (breakText c :: breaks, column, rest)
    else ([], column, c :: cs)

/-- Whether a line of a block is indented further than the block. -/
def isDeeper (line : List Char) : Bool :=
  line.head? == some ' ' || line.head? == some '\t'

/-- The lines of a block, of which the first begins the text: their text, the break after the
last line, the breaks after that, and what follows. -/
def blockLines (folded : Bool) (indent : Nat) :
    (fuel : Nat) → List Char → List Char × List Char × List Char × List Char
  | 0, s => ([], [], [], s)
  | fuel + 1, s =>
    let line := s.takeWhile (!isBreak ·)
    match s.dropWhile (!isBreak ·) with
    | [] => (line, [], [], [])
    | c :: cs =>
      let (breaks, column, rest) := blockBreaks indent 0 cs
      if column = indent ∧ rest ≠ [] then
        let joint :=
          if folded && breakText c == '\n' && !isDeeper s && !isDeeper rest then
            (if breaks.isEmpty then [' '] else [])
          else [breakText c]
        let (more, last, trailing, rest) := blockLines folded indent fuel rest
        (line ++ joint ++ breaks ++ more, last, trailing, rest)
      else (line, [breakText c], breaks, rest)

/-- The block scalar after its mark, inside of a node indented by `outer`, and what follows. -/
def blockScalar (folded : Bool) (outer : Int) (s : List Char) :
    Option (List Char × List Char) := do
  let (chomping, increment, rest) := blockHeader s
  let rest ← blockFirstLine rest
  let least := max 1 (outer + 1).toNat
  let (lead, indent, column, rest) :=
    match increment with
    | some n =>
      let indent := least + n - 1
      let (breaks, column, rest) := blockBreaks indent 0 rest
      (breaks, indent, column, rest)
    | none =>
      let (breaks, deepest, column, rest) := blockLead 0 rest
      (breaks, max least deepest, column, rest)
  let (text, last, trailing, rest) :=
    if column = indent ∧ rest ≠ [] then
      let (text, last, trailing, rest) := blockLines folded indent (rest.length + 1) rest
      (lead ++ text, last, trailing, rest)
    else ([], [], lead, rest)
  let ending := match chomping with
    | .strip => []
    | .clip => last
    | .keep => last ++ trailing
  return (text ++ ending, rest)

end KnitPattern.Yaml
