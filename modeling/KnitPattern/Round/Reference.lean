/-
  References to other rounds. A body `see Rnd N` stands for the body of round N; only rounds
  that were read before it can be meant, so chains of references resolve one by one.
-/
import KnitPattern.Numeral
import KnitPattern.Rejection
import KnitPattern.Round.Draft
import KnitPattern.Table

namespace KnitPattern

/-- The bodies of the rounds read so far, by number; references in them are resolved. -/
abbrev Bodies := Table Int String

namespace Draft

open Text Scan

/-- A reference, with the numeral of the round it means. -/
def referenceScan : Scan (List Char) := do
  word "see"
  blanks1
  word "r"
  optional (word "nd" <|> word "ow")
  blanks
  let n ← digits1
  optional (word ".")
  return n

/-- The numeral of the round that a body refers to. -/
def reference? (body : String) : Option (List Char) :=
  whole referenceScan (trim body.toList)

/-- The body of a draft, or the body of the round it refers to. -/
def resolve (bodies : Bodies) (d : Draft) : Except Stop String :=
  match reference? d.body with
  | none => .ok d.body
  | some numeral => do
    let target ← liftM (Numeral.read numeral)
    match bodies.get? (target : Int) with
    | some body => return body
    | none => throw (.rejected (.unresolved target))

end Draft

end KnitPattern
