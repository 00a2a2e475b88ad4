/-
  Quoted scalars of YAML. Between apostrophes an apostrophe is written twice; between
  quotation marks a backslash begins an escape. A line break with the blanks around it is
  folded to a space.
-/
import KnitPattern.Document.Yaml.Character
import KnitPattern.Document.Yaml.Fault
import KnitPattern.Text.CodePoint

namespace KnitPattern.Yaml

/-- The line breaks and blanks after a line break: the breaks, and what follows. A mark
between documents may not stand there. -/
def breaksAfter (atStart : Bool) (s : List Char) : Option (List Char × List Char) :=
  if atStart && separatorAhead s then none
  else match s with
    | [] => some ([], [])
    | c :: cs =>
      if c == ' ' || c == '\t' then breaksAfter false cs
      else if isBreak c then do
        let (breaks, rest) ← breaksAfter true cs
        return (breakText c :: breaks, rest)
      else some ([], c :: cs)

/-- The character of an escape with one letter. -/
def escapeChar? : Char → Option Char
  | '0' => some '\x00'
  | 'a' => some '\x07'
  | 'b' => some '\x08'
  | 't' => some '\t'
  | '\t' => some '\t'
  | 'n' => some '\n'
  | 'v' => some '\x0B'
  | 'f' => some '\x0C'
  | 'r' => some '\r'
  | 'e' => some '\x1B'
  | ' ' => some ' '
  | '\x22' => some '\x22'
  | '\\' => some '\\'
  | '/' => some '/'
  | 'N' => some '\u0085'
  | '_' => some '\u00A0'
  | 'L' => some '\u2028'
  | 'P' => some '\u2029'
  | _ => none

/-- How many hexadecimal digits follow the letter of an escape by code point. -/
def escapeWidth? : Char → Option Nat
  | 'x' => some 2
  | 'u' => some 4
  | 'U' => some 8
  | _ => none

/-- The number of `width` hexadecimal digits, and what follows. -/
def hexNumber? (width : Nat) (s : List Char) : Option (Nat × List Char) := do
  let digits := s.take width
  if digits.length < width then none
  let n ← digits.foldlM (fun n c => return 16 * n + (← hexDigit? c)) 0
  return (n, s.drop width)

/-- The code point of a number. Half of a surrogate pair is one too. -/
def codePointOf (n : Nat) : Except Fault Text.CodePoint :=
  match Text.CodePoint.ofNat? n with
  | some p => .ok p
  | none => if n < 0x80000000 then .error .noCharacter else .error .codePointTooLarge

/-- What a backslash and the text after it stand for, and what follows. -/
def escape : List Char → Except Fault (List Char × List Char)
  | [] => .error .malformed
  | c :: cs =>
    match escapeChar? c, escapeWidth? c with
    | some x, _ => .ok ([x], cs)
    | none, some width => do
      let (n, rest) ← wellFormed (hexNumber? width cs)
      return ((← codePointOf n).written, rest)
    | none, none =>
      if isBreak c then wellFormed (breaksAfter true cs) else .error .malformed

/-- A gap between words: what it stands for, and what follows. -/
def quotedGap? (s : List Char) : Option (List Char × List Char) :=
  let isSpace := fun c => c == ' ' || c == '\t'
  match s.dropWhile isSpace with
  | [] => none
  | c :: cs =>
    if isBreak c then do
      let (breaks, rest) ← breaksAfter true cs
      return (foldedBreaks c breaks, rest)
    else some (s.takeWhile isSpace, c :: cs)

/-- The text of a quoted scalar up to its closing mark, and what follows the mark. -/
def quotedText (double : Bool) :
    (fuel : Nat) → List Char → Except Fault (List Char × List Char)
  | 0, _ => .error .malformed
  | _, [] => .error .malformed
  | fuel + 1, c :: cs =>
    let goOn := fun (text rest : List Char) => do
      let (more, rest) ← quotedText double fuel rest
      return (text ++ more, rest)
    if isGap c then do
      let (text, rest) ← wellFormed (quotedGap? (c :: cs))
      goOn text rest
    else if double && c == '\\' then do
      let (text, rest) ← escape cs
      goOn text rest
    else if double && c == '\x22' then .ok ([], cs)
    else if !double && c == '\x27' then
      match cs with
      | '\x27' :: rest => goOn ['\x27'] rest
      | _ => .ok ([], cs)
    else goOn (Text.ofChars [c]) cs

/-- A quoted scalar after its opening mark, and what follows it. -/
def quotedScalar (double : Bool) (s : List Char) : Except Fault (List Char × List Char) :=
  quotedText double (s.length + 1) s

end KnitPattern.Yaml
