/-
  Names in YAML files: of nodes, of tags with their handles, and of directives. A tag may hold
  characters in the escapes of web addresses, a percent sign and two digits for each octet.
-/
import KnitPattern.Document.Yaml.Character
import KnitPattern.Document.Yaml.Token

namespace KnitPattern.Yaml

/-! ## Characters -/

/-- The characters of names. -/
def isNameChar (c : Char) : Bool :=
  c.isAlphanum || c == '-' || c == '_'

/-- The characters of tags. -/
def isTagChar (c : Char) : Bool :=
  isNameChar c || ";/?:@&=+$,.!~*'()[]%".toList.contains c

/-! ## Nodes -/

/-- A name of at least one character, and what follows. -/
def name? (s : List Char) : Option (List Char × List Char) :=
  let name := s.takeWhile isNameChar
  if name.isEmpty then none else some (name, s.dropWhile isNameChar)

/-- The name of a node after its mark, and what follows. -/
def nodeName? (s : List Char) : Option (List Char × List Char) := do
  let (name, rest) ← name? s
  let isEnd := fun c => isGap c || "?:,]\x7d%@\x60".toList.contains c
  if rest.head?.all isEnd then some (name, rest) else none

/-! ## Tags -/

/-- The octets of a run of escapes, and what follows. -/
def escapedOctets? (s : List Char) : Option (List UInt8 × List Char) :=
  match s with
  | '%' :: a :: b :: rest => do
    let octet := 16 * (← hexDigit? a) + (← hexDigit? b)
    let (octets, rest) ← escapedOctets? rest
    return (UInt8.ofNat octet :: octets, rest)
  | '%' :: _ => none
  | s => some ([], s)

/-- The characters that a run of escapes stands for, and what follows. -/
def escapedChars? (s : List Char) : Option (List Char × List Char) := do
  let (octets, rest) ← escapedOctets? s
  let text ← String.fromUTF8? ⟨octets.toArray⟩
  return (text.toList, rest)

/-- The text of a tag, possibly empty, and what follows. -/
def tagRun? : (fuel : Nat) → List Char → Option (List Char × List Char)
  | 0, _ => none
  | _, [] => some ([], [])
  | fuel + 1, c :: cs =>
    if !isTagChar c then some ([], c :: cs)
    else do
      let (piece, rest) ← if c == '%' then escapedChars? (c :: cs) else some ([c], cs)
      let (more, rest) ← tagRun? fuel rest
      return (piece ++ more, rest)

/-- The text of a tag, and what follows. -/
def tagText? (s : List Char) : Option (List Char × List Char) :=
  if s.head?.any isTagChar then tagRun? (s.length + 1) s else none

/-- A handle: an exclamation mark, or a name between two of them. -/
def handle? : List Char → Option (List Char × List Char)
  | '!' :: ' ' :: cs => some (['!'], ' ' :: cs)
  | '!' :: cs =>
    match cs.dropWhile isNameChar with
    | '!' :: rest => some ('!' :: cs.takeWhile isNameChar ++ ['!'], rest)
    | _ => none
  | _ => none

/-- A tag that stands whole between `<` and `>`, after its mark and the first of these, and what
follows. -/
def wholeTag? (s : List Char) : Option (Tag × List Char) := do
  let (text, rest) ← tagText? s
  if rest.head? = some '>' then some (⟨none, text⟩, rest.drop 1) else none

/-- A tag after a handle, and what follows. Without another handle the mark alone is one. -/
def handledTag? (s : List Char) : Option (Tag × List Char) := do
  let word := s.takeWhile fun c => !(c == ' ' || isBreak c)
  let (handle, rest) ← if word.count '!' > 1 then handle? s else some (['!'], s.drop 1)
  let (suffix, rest) ← tagText? rest
  return (⟨some handle, suffix⟩, rest)

/-- A tag, and what follows: between `<` and `>`, the mark alone, or after a handle. -/
def tag? (s : List Char) : Option (Tag × List Char) := do
  let cs := s.drop 1
  let (tag, rest) ←
    if cs.head? = some '<' then wholeTag? (cs.drop 1)
    else if gapAhead cs then some (⟨none, ['!']⟩, cs)
    else handledTag? s
  if spaceAhead rest then some (tag, rest) else none

/-! ## Directives -/

/-- A number in decimal digits, and what follows. -/
def number (s : List Char) : Except Fault (Nat × List Char) := do
  let digits := s.takeWhile isDecimal
  let rest := s.dropWhile isDecimal
  if digits.isEmpty || rest.head?.any (!isAllowed ·) then throw .malformed
  let n ← (Numeral.read digits).mapError Fault.halted
  return (n, rest)

/-- A text without the spaces at its start. -/
def afterSpaces (s : List Char) : List Char :=
  s.dropWhile (· == ' ')

/-- The version after the name of its directive, and what follows. -/
def versionDirective (s : List Char) : Except Fault (Directive × List Char) := do
  let (major, rest) ← number (afterSpaces s)
  let rest ← wellFormed (if rest.head? = some '.' then some (rest.drop 1) else none)
  let (_, rest) ← number rest
  return (.version major, rest)

/-- The handle and its meaning after the name of their directive, and what follows. -/
def handleDirective? (s : List Char) : Option (Directive × List Char) := do
  let (name, rest) ← handle? (afterSpaces s)
  if rest.head? ≠ some ' ' then none
  let (meaning, rest) ← tagText? (afterSpaces rest)
  return (.handle name meaning, rest)

/-- What follows a line on which only a comment is left. -/
def lineEnd? (s : List Char) : Option (List Char) :=
  let rest := afterSpaces s
  match if rest.head? = some '#' then rest.dropWhile (!isBreak ·) else rest with
  | [] => some []
  | c :: cs => if isBreak c then some cs else none

/-- A directive after its percent sign, and what follows its line. -/
def directive (s : List Char) : Except Fault (Directive × List Char) := do
  let (name, rest) ← wellFormed (name? s)
  if !spaceAhead rest then throw .malformed
  let (d, rest) ←
    if name = "YAML".toList then versionDirective rest
    else if name = "TAG".toList then wellFormed (handleDirective? rest)
    else pure (.other, rest.dropWhile (!isBreak ·))
  if !spaceAhead rest then throw .malformed
  return (d, ← wellFormed (lineEnd? rest))

end KnitPattern.Yaml
