/-
  What is wrong with the text of a YAML file. A file that is not well formed has one message,
  whatever is wrong; what is wrong with one of its scalars is said of the scalar.
-/
import KnitPattern.Document.NumberText
import KnitPattern.Document.Calendar

namespace KnitPattern.Yaml

/-- What is wrong with the text of a file. -/
inductive Fault where
  | malformed
  | halted (why : Halt)
  /-- An escape beyond the last code point. -/
  | noCharacter
  /-- An escape whose number does not even fit 32 bits with a sign. -/
  | codePointTooLarge
  /-- A text tagged as a whole number. -/
  | integer (fault : NumberText.Fault)
  /-- A text tagged as a floating-point number. -/
  | real (text : String)
  /-- An empty text tagged as a number. -/
  | emptyNumber
  /-- A part of a number to the base 60 that counts for more than any floating-point number. -/
  | placeTooLarge
  /-- A text tagged as a truth value. -/
  | truthValue (text : String)
  /-- A text tagged as a date. -/
  | notDate
  /-- A mapping tagged as a date. -/
  | dateOfMapping
  /-- A mapping that has its text from itself. -/
  | endless
  | calendar (fault : Calendar.Fault)
  deriving DecidableEq

/-- What is said of the file at a path. -/
def Fault.message (path : String) : Fault → String
  | malformed => s!"Failed to parse YAML file {path}"
  | halted why => why.message
  | noCharacter => "chr() arg not in range(0x110000)"
  | codePointTooLarge => "Python int too large to convert to C int"
  | integer fault => fault.message
  | real text => "could not convert string to float: " ++ Text.quote text
  | emptyNumber => "string index out of range"
  | placeTooLarge => "int too large to convert to float"
  | truthValue text => Text.quote text
  | notDate => "'NoneType' object has no attribute 'groupdict'"
  | dateOfMapping => "expected string or bytes-like object, got 'list'"
  | endless => "maximum recursion depth exceeded"
  | calendar fault => fault.message

/-- A result that only a well-formed text has. -/
def wellFormed {α : Type} : Option α → Except Fault α
  | some a => .ok a
  | none => .error .malformed

end KnitPattern.Yaml
