/-
  The rounds of a text. Every section of a logical line gives one draft for each positive
  number of its header, all with one body, or a fault if there is none; a logical line with
  no header and a stray continuation are faults too. A fault never costs other rounds.
-/
import KnitPattern.Round.Draft
import KnitPattern.Round.LogicalLine
import KnitPattern.Text.Quoted

namespace KnitPattern

/-- What is wrong with a line of a pattern. -/
inductive Line.Fault where
  /-- The line continues a round, and there is none. -/
  | stray
  /-- The line starts a round, and holds no header. -/
  | noHeader
  /-- A header has no positive number. -/
  | noNumber (header : List Char)
  deriving DecidableEq

def Line.Fault.message (line : Nat) : Line.Fault → String
  | stray => s!"Line {line}: unexpected continuation without round header"
  | noHeader => s!"Line {line}: missing round header (expected e.g. 'Rnd 1:')"
  | noNumber header =>
    s!"Line {line}: round header " ++ Text.quote (String.ofList header) ++
      " has no positive round number"

/-- The drafts of a text and the faults of its lines, both in the order of the text. -/
structure Extraction where
  drafts : List Draft := []
  faults : List (Nat × Line.Fault) := []
  deriving DecidableEq

namespace Extraction

/-- One extraction after another. -/
def append (a b : Extraction) : Extraction :=
  ⟨a.drafts ++ b.drafts, a.faults ++ b.faults⟩

/-- Extractions one after another. -/
def concat (es : List Extraction) : Extraction :=
  ⟨es.flatMap drafts, es.flatMap faults⟩

/-- The draft of a section for one number of its header. -/
def draft (line : Nat) (s : Section) (n : Nat) : Draft where
  number := n
  body := String.ofList (Text.oneSpaced s.body)
  raw := String.ofList (Text.trim s.text)
  keyword := s.header.keyword.toString
  line := line

/-- The drafts of a section for the positive numbers of its header. -/
def ofNumbers (line : Nat) (s : Section) : List Nat → Extraction
  | [] => { faults := [(line, .noNumber (Text.trim s.written))] }
  | n :: ns =>
    { drafts := (n :: ns).map (draft line s) }

/-- The rounds of a section. -/
def ofSection (line : Nat) (s : Section) : Except Halt Extraction := do
  return ofNumbers line s (← s.header.positives)

/-- The rounds of a logical line. -/
def ofLine (l : Line) : Except Halt Extraction :=
  match (Section.ofLine l.text).2 with
  | [] => return { faults := [(l.number, .noHeader)] }
  | sections => do return concat (← sections.mapM (ofSection l.number))

/-- The rounds of a text. -/
def ofText (text : String) : Except Halt Extraction := do
  let (strays, logical) := Line.grouped (Line.significant text.toList)
  let rounds ← logical.mapM ofLine
  return append { faults := strays.map fun l => (l.number, .stray) } (concat rounds)

/-- The faults of an extraction as messages. -/
def messages (e : Extraction) : List String :=
  e.faults.map fun (line, fault) => fault.message line

end Extraction

end KnitPattern
