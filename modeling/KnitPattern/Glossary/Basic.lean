/-
  Glossaries: a knitter's own titles for abbreviations. Codes are compared by their keys,
  which keep only ASCII letters and digits and put them in capitals; of several entries
  with one key the last that has a title counts.
-/
import KnitPattern.Text.Blank

namespace KnitPattern

/-- The key of an abbreviation: its ASCII letters and digits, in capitals. -/
def codeKey (code : String) : String :=
  String.ofList ((code.toList.filter Char.isAlphanum).map Char.toUpper)

/-- One abbreviation with its title and a free explanation. -/
structure Glossary.Entry where
  code : String
  title : String
  detail : String := ""
  deriving DecidableEq

/-- The entries of a glossary, in the order in which they are listed. -/
abbrev Glossary := List Glossary.Entry

namespace Glossary

open Text

/-- The title that an entry gives to a key: none if its own key is empty or another one, or
if its title is blank. -/
def Entry.titleFor? (key : String) (e : Entry) : Option String :=
  let title := trim e.title.toList
  if key ≠ "" ∧ codeKey e.code = key ∧ title ≠ [] then some (String.ofList title) else none

/-- The title of an abbreviation, by the last entry that gives one. -/
def title? (g : Glossary) (code : String) : Option String :=
  g.reverse.findSome? (Entry.titleFor? (codeKey code))

end Glossary

end KnitPattern
