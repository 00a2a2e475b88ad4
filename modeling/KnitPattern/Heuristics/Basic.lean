/-
  Heuristic labels: what an abbreviation is called when the glossary has no title for it.
  A key is looked up among exact keys first, then among stems, the first listed stem that
  begins the key deciding. The tables are in normal form (keys of codes, none empty) and
  no stem begins with an earlier one, so a listed stem is never out of reach.
-/
import KnitPattern.Glossary.Basic
import KnitPattern.Table
import KnitPattern.Text.Quoted

namespace KnitPattern

/-- One of the two tables of labels. -/
inductive Heuristics.Part where
  | exact
  | stems
  deriving DecidableEq

/-- What is wrong with a document of heuristic labels. -/
inductive Heuristics.Fault where
  | notMapping
  | notList (part : Heuristics.Part)
  | incomplete (part : Heuristics.Part) (entry : Nat)
  | codeNotKey (code : String)
  | stemNotKey (stem : String)
  | shadowed (stem earlier : String)
  deriving DecidableEq

namespace Heuristics

/-! ## Faults of the tables -/

/-- Whether a text is the key of an abbreviation, as all entries of the tables are. -/
def isKey (s : String) : Bool :=
  s != "" && s == codeKey s

/-- Whether one text begins another. -/
def begins (stem key : String) : Bool :=
  stem.toList.isPrefixOf key.toList

/-- The faults of the exact keys, in their order. -/
def codeFaults (codes : List String) : List Fault :=
  (codes.filter (!isKey ·)).map .codeNotKey

/-- The faults of stems that follow the stems `earlier`: a stem is no key, or is a key that
earlier stems begin. -/
def stemFaults (earlier : List String) : List String → List Fault
  | [] => []
  | s :: rest =>
    (if isKey s then (earlier.filter (begins · s)).map (.shadowed s) else [.stemNotKey s]) ++
      stemFaults (earlier ++ [s]) rest

/-- The faults of the two tables. -/
def tableFaults (exact : Table String String) (stems : List (String × String)) : List Fault :=
  codeFaults (exact.map (·.1)) ++ stemFaults [] (stems.map (·.1))

end Heuristics

/-- The label tables: exact keys and stems, with nothing wrong in them. -/
structure Heuristics where
  exact : Table String String
  stems : List (String × String)
  faultless : Heuristics.tableFaults exact stems = []

namespace Heuristics

/-! ## Labels -/

/-- The heuristic label of an abbreviation. -/
def label? (h : Heuristics) (code : String) : Option String :=
  let key := codeKey code
  h.exact.get? key <|> (h.stems.find? (begins ·.1 key)).map (·.2)

/-! ## Reports -/

/-- What a part is called where its entries are counted, and where it is named whole. -/
def Part.singular : Part → String
  | .exact => "exact"
  | .stems => "prefix"

def Part.plural : Part → String
  | .exact => "exact"
  | .stems => "prefixes"

/-- The name of the field that holds the key of an entry. -/
def Part.keyField : Part → String
  | .exact => "code"
  | .stems => "prefix"

def Fault.message : Fault → String
  | notMapping => "label_heuristics.yaml must be a mapping"
  | notList part => s!"{part.plural} must be a list"
  | incomplete part entry =>
    s!"{part.singular} entry {entry} is missing '{part.keyField}' or 'label'"
  | codeNotKey code => "exact code is not normalized: " ++ Text.quote code
  | stemNotKey stem => "prefix is not normalized: " ++ Text.quote stem
  | shadowed stem earlier =>
    "prefix " ++ Text.quote stem ++ " is shadowed by earlier prefix " ++ Text.quote earlier

/-- The report on a refused document, one line for each fault. -/
def report (faults : List Fault) : String :=
  "Label registry validation failed:\n" ++
    "\n".intercalate (faults.map fun f => "  - " ++ f.message)

end Heuristics

end KnitPattern
