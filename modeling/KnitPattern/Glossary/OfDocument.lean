/-
  Glossaries from documents: a list of mappings with a code, a title and perhaps a detail,
  or a mapping that has such a list under `entries`.
-/
import KnitPattern.Document.Basic
import KnitPattern.Glossary.Basic

namespace KnitPattern.Glossary

/-- Why a document is no glossary. -/
inductive Fault where
  | notList
  | incomplete (entry : Nat)
  /-- A value of an entry cannot be written. -/
  | halted (why : Halt)
  deriving DecidableEq

/-- What is said of a document, called by its source. -/
def Fault.message (source : String) : Fault → String
  | notList => s!"{source}: glossary must be a list of entries"
  | incomplete entry => s!"{source}: entry {entry} needs 'code' and 'title'"
  | halted why => why.message

/-- The text of an optional value that counts as something. -/
def detailText (d : Option Document) : Except Halt String :=
  match d with
  | some d =>
    if d.isNothing then .ok "" else d.toText.map fun s => String.ofList (Text.trim s.toList)
  | none => .ok ""

/-- The entry of a document that has a code, a title and perhaps a detail. -/
def entryOf (code title : Document) (detail : Option Document) : Except Halt Entry := do
  return ⟨← code.toText, ← title.toText, ← detailText detail⟩

/-- The entry of a document at a position. -/
def entry (position : Nat) (d : Document) : Except Fault Entry :=
  match d.pair? "code" "title" with
  | none => .error (.incomplete position)
  | some (code, title) =>
    (entryOf code title (d.entries?.bind (Document.field? "detail"))).mapError .halted

/-- The entries from a position on. -/
def entries (position : Nat) : List Document → Except Fault Glossary
  | [] => .ok []
  | d :: ds => do return (← entry position d) :: (← entries (position + 1) ds)

/-- The glossary of a list of entries. -/
def ofItems (d : Document) : Except Fault Glossary :=
  match d.items? with
  | some items => entries 0 items
  | none => .error .notList

/-- The glossary of a document; no document is an empty glossary. -/
def ofDocument (d : Document) : Except Fault Glossary :=
  match d, d.entries? with
  | .scalar .null, _ => .ok []
  | _, none => ofItems d
  | _, some fields =>
    match Document.field? "entries" fields with
    | none => .ok []
    | some items => if items.isNothing then .ok [] else ofItems items

end KnitPattern.Glossary
