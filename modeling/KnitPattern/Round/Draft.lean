/-
  Round drafts: a round as it stands in a pattern, before its instructions are read.
-/

namespace KnitPattern

/-- A round before its instructions are read: its number, the instruction text, the text
as written, the word of its header, and the line it starts on. -/
structure Draft where
  number : Int
  body : String
  raw : String
  keyword : String := "Rnd"
  line : Int := 1
  deriving DecidableEq

/-- What a round is called, such as `Rnd 3`. -/
def Draft.label (d : Draft) : String :=
  s!"{d.keyword} {d.number}"

end KnitPattern
