/-
  Documents: what a glossary file, a table of labels or a file of settings holds. A document
  is a scalar, a list of documents, or a mapping from scalars to documents in the order of
  the file; less often a pair or a set. A file may also hold a list or mapping that is part of
  itself.
-/
import KnitPattern.Binary64.Shortest
import KnitPattern.Document.Calendar
import KnitPattern.Document.Octets
import KnitPattern.Halt
import KnitPattern.Table

namespace KnitPattern

/-- A value without parts. -/
inductive Scalar where
  | null
  | bool (value : Bool)
  | int (value : Int)
  | real (value : Binary64)
  | text (value : String)
  | octets (value : Octets)
  | date (value : Date)
  | moment (value : Moment)
  deriving DecidableEq

/-- A value read from a file. -/
inductive Document where
  | scalar (value : Scalar)
  | list (items : List Document)
  | mapping (entries : List (Scalar × Document))
  | pair (first second : Document)
  | set (members : List Scalar)
  /-- A list or mapping that is part of itself: its text, in which every return to a part
  that is being written is cut short, and what is seen from outside. -/
  | knot (text : Except Halt String) (seen : Document)

namespace Scalar

/-- The whole number that a truth value or a whole number is. -/
def int? : Scalar → Option Int
  | bool b => some (if b then 1 else 0)
  | int n => some n
  | _ => none

/-- Whether two scalars are one key: numbers of all kinds are compared by value, and moments
by the time they stand for. -/
def sameKey : Scalar → Scalar → Bool
  | null, null => true
  | text s, text t => s == t
  | octets a, octets b => a == b
  | date a, date b => a == b
  | moment a, moment b => a.same b
  | real x, real y => x.sameNumber y
  | real x, b => b.int?.any x.isInt
  | a, real y => a.int?.any y.isInt
  | a, b => a.int?.isSome && a.int? == b.int?

instance : BEq Scalar := ⟨sameKey⟩

/-- The text of a scalar inside a list or a mapping, where texts are quoted. A number of too
many digits has no text. -/
def shown : Scalar → Except Halt String
  | null => .ok "None"
  | bool b => .ok (if b then "True" else "False")
  | int n => if Halt.isWritable n then .ok (toString n) else .error .numberTooLong
  | real x => .ok x.toText
  | text s => .ok (Text.quote s)
  | octets bs => .ok bs.shown
  | date d => .ok d.shown
  | moment m => .ok m.shown

/-- The text of a scalar that stands alone. -/
def toText : Scalar → Except Halt String
  | text s => .ok s
  | date d => .ok d.toText
  | moment m => .ok m.toText
  | s => s.shown

/-- Whether a scalar counts as nothing: null, false, zero, or no characters or octets. -/
def isNothing : Scalar → Bool
  | null => true
  | bool b => !b
  | int n => n == 0
  | real x => x.isZero
  | text s => s == ""
  | octets bs => bs.isEmpty
  | date _ | moment _ => false

end Scalar

namespace Document

/-- No value. -/
def null : Document := .scalar .null

/-! ## Texts -/

/-- The texts of the parts of a document, between two marks. -/
def enclosed (left : String) (parts : List String) (right : String) : String :=
  left ++ ", ".intercalate parts ++ right

/-- The text of a list. -/
def listText (items : List String) : String :=
  enclosed "[" items "]"

/-- The text of a mapping with the given texts of its entries, or of a set. -/
def mappingText (entries : List String) : String :=
  enclosed "\x7b" entries "\x7d"

/-- The text of a pair. -/
def pairText (first second : String) : String :=
  enclosed "(" [first, second] ")"

/-- The text of an entry of a mapping. -/
def entryText (key value : String) : String :=
  key ++ ": " ++ value

/-- The text of a set. -/
def setText (members : List Scalar) : Except Halt String :=
  if members.isEmpty then .ok "set()" else (members.mapM Scalar.shown).map mappingText

mutual

/-- The text of a document inside another one. -/
def shown : Document → Except Halt String
  | scalar s => s.shown
  | list items => (shownItems items).map listText
  | mapping entries => (shownEntries entries).map mappingText
  | pair a b => do return pairText (← shown a) (← shown b)
  | set members => setText members
  | knot text _ => text

def shownItems : List Document → Except Halt (List String)
  | [] => .ok []
  | d :: ds => do return (← shown d) :: (← shownItems ds)

def shownEntries : List (Scalar × Document) → Except Halt (List String)
  | [] => .ok []
  | (k, d) :: es => do return entryText (← k.shown) (← shown d) :: (← shownEntries es)

end

/-- The text of a document. -/
def toText : Document → Except Halt String
  | scalar s => s.toText
  | d => d.shown

/-! ## Parts -/

/-- What is seen of a document from outside. -/
def seen : Document → Document
  | knot _ d => d
  | d => d

/-- The items of a list. -/
def items? (d : Document) : Option (List Document) :=
  match d.seen with
  | list items => some items
  | _ => none

/-- The entries of a mapping. -/
def entries? (d : Document) : Option (List (Scalar × Document)) :=
  match d.seen with
  | mapping entries => some entries
  | _ => none

/-- Whether a document counts as nothing: a scalar that does, or one without parts. -/
def isNothing (d : Document) : Bool :=
  match d.seen with
  | scalar s => s.isNothing
  | list items => items.isEmpty
  | mapping entries => entries.isEmpty
  | set members => members.isEmpty
  | _ => false

/-- The value of a name in a mapping. -/
def field? (name : String) (entries : List (Scalar × Document)) : Option Document :=
  Table.get? (.text name) entries

/-- The fields `a` and `b` of a mapping that has both. -/
def pair? (a b : String) (d : Document) : Option (Document × Document) := do
  let entries ← d.entries?
  return (← field? a entries, ← field? b entries)

end Document

end KnitPattern
