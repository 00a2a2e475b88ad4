/-
  From the characters of a YAML file to its tokens. A key without a question mark is known
  only when the colon after it is met, so every token that may begin such a key is kept in
  mind; the colon must follow on the same line and within 1024 characters. Where the text
  cannot be read the tokens end with the fault.
-/
import KnitPattern.Document.Yaml.Block
import KnitPattern.Document.Yaml.Name
import KnitPattern.Document.Yaml.Plain
import KnitPattern.Document.Yaml.Quoted

namespace KnitPattern.Yaml

/-- A token that may begin a key: how many tokens come before it, where it stands, and whether
nothing but a key can stand there. -/
structure PendingKey where
  before : Nat
  index : Nat
  line : Nat
  column : Nat
  required : Bool

/-- A point in the work on a file: the text ahead, its length and its place; how many brackets
are open; the indentation of the innermost block and of those around it; the tokens so far,
latest first, and their number; whether a key may begin here; and the pending key of each depth
of brackets. -/
structure Lexer where
  rest : List Char
  length : Nat := rest.length
  index : Nat := 0
  line : Nat := 0
  column : Nat := 0
  depth : Nat := 0
  indent : Int := -1
  outer : List Int := []
  tokens : List Token := []
  count : Nat := 0
  keyAllowed : Bool := true
  pending : List (Nat × PendingKey) := []

namespace Lexer

/-! ## Moving on -/

/-- Moves on by a character. -/
def next (x : Lexer) : Lexer :=
  match x.rest with
  | [] => x
  | c :: cs =>
    let y := { x with rest := cs, length := x.length - 1, index := x.index + 1 }
    if isBreak c then { y with line := x.line + 1, column := 0 }
    else { y with column := x.column + 1 }

/-- Moves on by a number of characters. -/
def skip (x : Lexer) : (n : Nat) → Lexer
  | 0 => x
  | n + 1 => x.next.skip n

/-- Moves on to an end of the text ahead. -/
def skipTo (x : Lexer) (rest : List Char) : Lexer :=
  x.skip (x.length - rest.length)

/-- Adds a token. -/
def emit (x : Lexer) (t : Token) : Lexer :=
  { x with tokens := t :: x.tokens, count := x.count + 1 }

/-- Adds a token and moves on by its characters. -/
def mark (x : Lexer) (t : Token) (width : Nat) : Lexer :=
  (x.emit t).skip width

/-- Puts a token before all but the first `before` tokens. -/
def emitAfter (x : Lexer) (before : Nat) (t : Token) : Lexer :=
  { x with tokens := x.tokens.insertIdx (x.count - before) t, count := x.count + 1 }

/-- How many blanks and comments stand before a token, and whether a line ends there. -/
def tokenAhead (inComment : Bool) : List Char → Nat × Bool
  | [] => (0, false)
  | c :: cs =>
    if isBreak c then ((tokenAhead false cs).1 + 1, true)
    else if inComment || c == ' ' || c == '#' then
      let (n, newLine) := tokenAhead (inComment || c == '#') cs
      (n + 1, newLine)
    else (0, false)

/-- Moves on to the next token. Outside of brackets a key may begin on a new line. -/
def toToken (x : Lexer) : Lexer :=
  let (n, newLine) := tokenAhead false x.rest
  { x.skip n with keyAllowed := x.keyAllowed || (newLine && x.depth == 0) }

/-! ## Pending keys -/

/-- Whether the colon of a key can follow no more. -/
def isStale (x : Lexer) (k : PendingKey) : Bool :=
  k.line ≠ x.line || x.index - k.index > 1024

/-- Forgets the keys that are stale; there is an error if one is required. -/
def dropStale (x : Lexer) : Except Fault Lexer :=
  if x.pending.any fun k => x.isStale k.2 && k.2.required then .error .malformed
  else .ok { x with pending := x.pending.filter fun k => !x.isStale k.2 }

/-- Forgets the key of this depth of brackets; there is an error if it is required. -/
def dropKey (x : Lexer) : Except Fault Lexer :=
  if x.pending.any fun k => k.1 == x.depth && k.2.required then .error .malformed
  else .ok { x with pending := x.pending.filter (·.1 ≠ x.depth) }

/-- Keeps in mind that a key may begin here. -/
def keepKey (x : Lexer) : Except Fault Lexer :=
  if x.keyAllowed then do
    let y ← x.dropKey
    let key : PendingKey :=
      { before := x.count, index := x.index, line := x.line, column := x.column,
        required := x.depth == 0 && x.indent == x.column }
    return { y with pending := (x.depth, key) :: y.pending }
  else .ok x

/-! ## Indentation -/

/-- The blocks that go on at a column: their indentations, and how many blocks end. -/
def unwound (column indent : Int) : List Int → Int × List Int × Nat
  | [] => (indent, [], 0)
  | o :: os =>
    if indent > column then
      let (i, os, n) := unwound column o os
      (i, os, n + 1)
    else (indent, o :: os, 0)

/-- Ends the blocks that are indented further than a column. -/
def unwind (x : Lexer) (column : Int) : Lexer :=
  if x.depth > 0 then x
  else
    let (indent, outer, n) := unwound column x.indent x.outer
    { x with
      indent, outer, tokens := List.replicate n .blockEnd ++ x.tokens, count := x.count + n }

/-- Begins a block at a column, if it is indented further than the block around it. -/
def openBlock (x : Lexer) (column before : Nat) (t : Token) : Lexer :=
  if x.indent < column then
    { x with indent := column, outer := x.indent :: x.outer }.emitAfter before t
  else x

/-! ## Tokens -/

/-- A directive. -/
def directive (x : Lexer) : Except Fault Lexer := do
  let y ← (x.unwind (-1)).dropKey
  let (d, rest) ← Yaml.directive (y.rest.drop 1)
  return ({ y with keyAllowed := false }.emit (.directive d)).skipTo rest

/-- A mark between documents. -/
def separator (x : Lexer) (t : Token) : Except Fault Lexer := do
  let y ← (x.unwind (-1)).dropKey
  return { y with keyAllowed := false }.mark t 3

/-- A bracket that opens. -/
def openFlow (x : Lexer) (t : Token) : Except Fault Lexer := do
  let y ← x.keepKey
  return { y with depth := y.depth + 1, keyAllowed := true }.mark t 1

/-- A bracket that closes. -/
def closeFlow (x : Lexer) (t : Token) : Except Fault Lexer := do
  let y ← x.dropKey
  return { y with depth := y.depth - 1, keyAllowed := false }.mark t 1

/-- A comma between brackets. -/
def flowEntry (x : Lexer) : Except Fault Lexer := do
  let y ← { x with keyAllowed := true }.dropKey
  return y.mark .flowEntry 1

/-- A mark at which, outside of brackets, a block may begin that is not there yet; a key must be
allowed to begin there. -/
def blockMark (x : Lexer) (start : Token) : Except Fault Lexer :=
  if x.depth > 0 then .ok x
  else if x.keyAllowed then .ok (x.openBlock x.column x.count start)
  else .error .malformed

/-- A dash that begins an entry of a list. -/
def blockEntry (x : Lexer) : Except Fault Lexer := do
  let y ← x.blockMark .blockListStart
  let z ← { y with keyAllowed := true }.dropKey
  return z.mark .blockEntry 1

/-- A mark that begins a key, or a value without a key. -/
def mappingMark (x : Lexer) (t : Token) : Except Fault Lexer := do
  let y ← x.blockMark .blockMappingStart
  let z ← { y with keyAllowed := x.depth == 0 }.dropKey
  return z.mark t 1

/-- A colon: what stands before it on the line is a key, if a key was pending. -/
def value (x : Lexer) : Except Fault Lexer :=
  match x.pending.lookup x.depth with
  | some k =>
    let y := { x with pending := x.pending.filter (·.1 ≠ x.depth) }.emitAfter k.before .key
    let z := if x.depth == 0 then y.openBlock k.column k.before .blockMappingStart else y
    .ok ({ z with keyAllowed := false }.mark .value 1)
  | none => x.mappingMark .value

/-- A token at which a key may begin: the token and what follows it are read by `read`. -/
def keyToken (x : Lexer) (read : List Char → Except Fault (Token × List Char)) :
    Except Fault Lexer := do
  let y ← x.keepKey
  let (t, rest) ← read y.rest
  return ({ y with keyAllowed := false }.emit t).skipTo rest

/-- The name of a node, or the node of a name. -/
def nodeName (x : Lexer) (token : List Char → Token) : Except Fault Lexer :=
  x.keyToken fun s => do
    let (name, rest) ← wellFormed (nodeName? (s.drop 1))
    return (token name, rest)

/-- The tag of a node. -/
def tag (x : Lexer) : Except Fault Lexer :=
  x.keyToken fun s => do
    let (tag, rest) ← wellFormed (tag? s)
    return (.tag tag, rest)

/-- A quoted scalar. -/
def quoted (x : Lexer) (double : Bool) : Except Fault Lexer :=
  x.keyToken fun s => do
    let (text, rest) ← quotedScalar double (s.drop 1)
    return (.scalar text false, rest)

/-- A block scalar. -/
def block (x : Lexer) (folded : Bool) : Except Fault Lexer := do
  let y ← { x with keyAllowed := true }.dropKey
  let (text, rest) ← wellFormed (blockScalar folded y.indent (y.rest.drop 1))
  return (y.emit (.scalar (Text.ofChars text) false)).skipTo rest

/-- A plain scalar. -/
def plain (x : Lexer) : Except Fault Lexer := do
  let y ← x.keepKey
  let (text, newLine, rest) := plainScalar (0 < y.depth) (y.indent + 1) y.rest
  return ({ y with keyAllowed := newLine }.emit (.scalar (Text.ofChars text) true)).skipTo rest

/-- The next token, at the start of which the work has come. -/
def token (x : Lexer) (c : Char) (cs : List Char) : Except Fault Lexer :=
  let inFlow := 0 < x.depth
  if x.column == 0 && c == '%' then x.directive
  else if x.column == 0 && c == '-' && separatorAhead (c :: cs) then x.separator .documentStart
  else if x.column == 0 && c == '.' && separatorAhead (c :: cs) then x.separator .documentEnd
  else if c == '[' then x.openFlow .flowListStart
  else if c == '\x7b' then x.openFlow .flowMappingStart
  else if c == ']' then x.closeFlow .flowListEnd
  else if c == '\x7d' then x.closeFlow .flowMappingEnd
  else if c == ',' then x.flowEntry
  else if c == '-' && gapAhead cs then x.blockEntry
  else if c == '?' && (inFlow || gapAhead cs) then x.mappingMark .key
  else if c == ':' && (inFlow || gapAhead cs) then x.value
  else if c == '*' then x.nodeName .alias
  else if c == '&' then x.nodeName .anchor
  else if c == '!' then x.tag
  else if c == '|' && !inFlow then x.block false
  else if c == '>' && !inFlow then x.block true
  else if c == '\x27' then x.quoted false
  else if c == '\x22' then x.quoted true
  else if plainAhead inFlow (c :: cs) then x.plain
  else .error .malformed

/-- The work after the next token, or at the end of the text; whether that is reached. -/
def step (x : Lexer) : Except Fault (Lexer × Bool) := do
  let y ← x.toToken.dropStale
  let z := y.unwind y.column
  match z.rest with
  | [] => return (← (z.unwind (-1)).dropKey, true)
  | c :: cs => return (← z.token c cs, false)

/-- The tokens that nothing ahead can change: those before the first that may begin a key. -/
def settled (x : Lexer) : List Token :=
  let keys := x.pending.filter fun k => !x.isStale k.2
  x.tokens.reverse.take ((keys.map (·.2.before)).foldl min x.count)

/-- The tokens of the text ahead, with those before. Every token moves on by a character at
least. -/
def finish (x : Lexer) : (fuel : Nat) → List Token
  | 0 => x.tokens.reverse
  | fuel + 1 =>
    match x.step with
    | .error f => x.settled ++ [.fault f]
    | .ok (y, true) => y.tokens.reverse
    | .ok (y, false) => y.finish fuel

end Lexer

/-- The tokens of a text; a byte order mark at its start counts for nothing. -/
def tokens (s : List Char) : List Token :=
  let s := match s with
    | '\uFEFF' :: cs => cs
    | _ => s
  ({ rest := s } : Lexer).finish (s.length + 1)

end KnitPattern.Yaml
