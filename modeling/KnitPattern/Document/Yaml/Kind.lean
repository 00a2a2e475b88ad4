/-
  Kinds of nodes in YAML files. A tag names the kind; without one a list or mapping is of its
  own kind, a quoted or block scalar is a text, and a plain scalar is of the kind whose form its
  text has: null, truth values, numbers, which may hold low lines and may be written in parts to
  the base 60 as `1:30`, and dates.
-/
import KnitPattern.Document.Yaml.Time
import KnitPattern.Document.Yaml.Token

namespace KnitPattern.Yaml

/-- What a node is to stand for. -/
inductive Kind where
  | null
  | bool
  | int
  | real
  | octets
  | time
  | text
  | list
  | mapping
  /-- A list of pairs, each written as a mapping with one entry. -/
  | pairs
  | set
  /-- A key whose value is merged into its mapping. -/
  | merge
  /-- A key whose value stands for its mapping where a text is wanted. -/
  | default
  | unknown
  deriving DecidableEq

namespace Kind

/-! ## Forms of plain scalars -/

/-- Whether a text is one of a few words. -/
def isWord (words : List String) (s : List Char) : Bool :=
  (words.map String.toList).contains s

/-- A truth value, in small letters, with a capital or in capitals. -/
def isTruth : List Char → Bool :=
  isWord ["yes", "Yes", "YES", "no", "No", "NO", "true", "True", "TRUE", "false", "False", "FALSE",
    "on", "On", "ON", "off", "Off", "OFF"]

def isNull : List Char → Bool :=
  isWord ["~", "null", "Null", "NULL"]

/-- Whether all characters of a text are of a class or low lines. -/
def allOf (p : Char → Bool) (s : List Char) : Bool :=
  s.all fun c => p c || c == '_'

/-- Whether a text begins with a digit and goes on with digits and low lines. -/
def isDigits (s : List Char) : Bool :=
  s.head?.any isDecimal && allOf isDecimal s

/-- Whether a text is a part of a number to the base 60 other than the first. -/
def isSixtieth : List Char → Bool
  | [c] => isDecimal c
  | [c, d] => '0' ≤ c && c ≤ '5' && isDecimal d
  | _ => false

/-- Whether a text is a whole number without a sign. -/
def isNatural (s : List Char) : Bool :=
  match s with
  | ['0'] => true
  | '0' :: 'b' :: ds => ds ≠ [] && allOf (fun c => c == '0' || c == '1') ds
  | '0' :: 'x' :: ds => ds ≠ [] && allOf (fun c => (hexDigit? c).isSome) ds
  | '0' :: ds => allOf (fun c => '0' ≤ c && c ≤ '7') ds
  | _ =>
    match s.splitOn ':' with
    | first :: parts => isDigits first && parts.all isSixtieth
    | [] => false

/-- Whether a text is a whole number. -/
def isInt (s : List Char) : Bool :=
  isNatural (NumberText.unsigned s).2

/-- Whether a text is empty or an exponent, which has a sign. -/
def isExponent : List Char → Bool
  | [] => true
  | e :: sign :: ds =>
    (e == 'e' || e == 'E') && (sign == '+' || sign == '-') && ds ≠ [] && ds.all isDecimal
  | _ => false

/-- Whether a text is a number with a point, or the name of one. A number that begins with its
point has no sign, and a digit after the point. -/
def isReal (s : List Char) : Bool :=
  let body := (NumberText.unsigned s).2
  let ahead := body.takeWhile (· != '.')
  let behind := body.drop (ahead.length + 1)
  let ending := behind.dropWhile fun c => isDecimal c || c == '_'
  let begins := fun w => isDigits w || (s.head? == some '.' && behind.head?.any isDecimal)
  isWord [".inf", ".Inf", ".INF"] body || isWord [".nan", ".NaN", ".NAN"] s ||
    (body.contains '.' &&
      match ahead.splitOn ':' with
      | [whole] => begins whole && isExponent ending
      | first :: parts => isDigits first && parts.all isSixtieth && ending.isEmpty
      | [] => false)

/-- Whether a text is a date; alone its month and day have two digits. -/
def isTime (s : List Char) : Bool :=
  (WrittenDate.ofText? s).any fun d => d.time.isSome || d.full

/-- A text without a line break at its end. -/
def withoutBreak (s : List Char) : List Char :=
  if s.getLast? = some '\n' then s.dropLast else s

/-- The kind of a plain scalar. A line break at the end of the text does not count. -/
def ofPlain (text : List Char) : Kind :=
  let s := withoutBreak text
  if text.isEmpty || isNull s then .null
  else if isTruth s then .bool
  else if isReal s then .real
  else if isInt s then .int
  else if isTime s then .time
  else if isWord ["<<"] s then .merge
  else if isWord ["="] s then .default
  else if isWord ["!", "&", "*"] s then .unknown
  else .text

/-! ## Tags -/

/-- What all tags of the standard kinds begin with. -/
def standardTags : List Char :=
  "tag:yaml.org,2002:".toList

/-- The names of the standard kinds. -/
def standardNames : List (String × Kind) := [
  ("null", .null), ("bool", .bool), ("int", .int), ("float", .real), ("binary", .octets),
  ("timestamp", .time), ("str", .text), ("seq", .list), ("map", .mapping), ("omap", .pairs),
  ("pairs", .pairs), ("set", .set), ("merge", .merge), ("value", .default)]

/-- The kind that a tag names. -/
def ofTag (tag : List Char) : Kind :=
  ((standardNames.find? fun n => standardTags ++ n.1.toList = tag).map (·.2)).getD .unknown

/-- The handles that every file has. -/
def standardHandles : List (List Char × List Char) :=
  [(['!'], ['!']), (['!', '!'], standardTags)]

end Kind

end KnitPattern.Yaml
