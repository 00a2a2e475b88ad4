/-
  Settings from documents. The numbers are converted first, then the glossary is read, and
  only then are the numbers compared with their least values.
-/
import KnitPattern.Document.Integer
import KnitPattern.Glossary.OfDocument
import KnitPattern.Settings.Basic

namespace KnitPattern.Settings

/-- Why a document gives no settings. -/
inductive Fault where
  | notMapping
  | number (fault : Document.IntegerFault)
  | glossary (fault : Glossary.Fault)
  | belowOne (field : Field) (given : Int)
  /-- A number below one that cannot be written. -/
  | halted (why : Halt)
  deriving DecidableEq

/-- What is said of a document, called by its source. -/
def Fault.message (source : String) : Fault → String
  | notMapping => s!"{source}: config must be a mapping"
  | number fault => fault.message
  | glossary fault => fault.message source
  | belowOne field given => Settings.belowOne field given
  | halted why => why.message

/-- The fault of a setting that is below one. -/
def Fault.ofBelowOne (field : Field) (given : Int) : Fault :=
  if Halt.isWritable given then .belowOne field given else .halted .numberTooLong

/-- The number of a setting, or its default if the document has none. -/
def number (fields : List (Scalar × Document)) (field : Field) (default : Int) :
    Except Fault Int :=
  match Document.field? field.name fields with
  | none => .ok default
  | some d => d.toInteger.mapError .number

/-- The settings of the fields of a document. -/
def ofFields (fields : List (Scalar × Document)) : Except Fault Settings := do
  let starting ← number fields .starting 90
  let repeats ← number fields .repeats 10000
  let stitches ← number fields .stitches 10000
  let glossary ← (Glossary.ofDocument ((Document.field? "glossary" fields).getD .null)).mapError
    Fault.glossary
  (checked starting repeats stitches glossary).mapError fun f => .ofBelowOne f.1 f.2

/-- The settings of a document; one that counts as nothing gives the defaults. -/
def ofDocument (d : Document) : Except Fault Settings :=
  if d.isNothing then ofFields []
  else match d.entries? with
    | some fields => ofFields fields
    | none => .error .notMapping

end KnitPattern.Settings
