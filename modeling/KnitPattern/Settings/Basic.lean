/-
  Settings: what a caller has fixed for all readings. The starting count and the two limits
  are at least one.
-/
import KnitPattern.Context

namespace KnitPattern

/-- The defaults and limits of a reading. -/
structure Settings where
  starting : Int := 90
  limits : Limits := {}
  glossary : Glossary := []
  one_le_starting : 1 ≤ starting := by decide
  one_le_repeats : 1 ≤ limits.repeats := by decide
  one_le_stitches : 1 ≤ limits.stitches := by decide

/-- A setting that has a least value. -/
inductive Settings.Field where
  | starting
  | repeats
  | stitches
  deriving DecidableEq

namespace Settings

/-- The name of a setting in documents and messages. -/
def Field.name : Field → String
  | starting => "starting_stitches"
  | repeats => "max_repeat"
  | stitches => "max_stitches"

/-- What is said of a setting below one. -/
def belowOne (field : Field) (given : Int) : String :=
  s!"{field.name} must be >= 1, got {given}"

/-- Settings from given numbers, or the first of them that is below one. -/
def checked (starting repeats stitches : Int) (glossary : Glossary) :
    Except (Field × Int) Settings :=
  if h₁ : 1 ≤ starting then
    if h₂ : 1 ≤ repeats then
      if h₃ : 1 ≤ stitches then
        .ok { starting, limits := ⟨repeats, stitches⟩, glossary, one_le_starting := h₁,
              one_le_repeats := h₂, one_le_stitches := h₃ }
      else .error (.stitches, stitches)
    else .error (.repeats, repeats)
  else .error (.starting, starting)

end Settings

end KnitPattern
