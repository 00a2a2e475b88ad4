/-
  Label tables from documents. A document is refused with a list of all its faults: the
  faults of its form first, then those of the entries that were read. A value that cannot be
  written ends the work before any fault is listed.
-/
import KnitPattern.Document.Basic
import KnitPattern.Heuristics.Basic

namespace KnitPattern.Heuristics

/-- Why there are no tables. -/
inductive Refusal where
  /-- A value of an entry cannot be written. -/
  | halted (why : Halt)
  | faulty (faults : List Fault)
  deriving DecidableEq

def Refusal.message : Refusal → String
  | halted why => why.message
  | faulty faults => report faults

/-- The key and the label of an entry as texts. -/
def pairText (key label : Document) : Except Halt (String × String) := do
  return (← key.toText, ← label.toText)

/-- The entries of a part: the keys and labels of the good ones, and the faults. -/
def entries (part : Part) (position : Nat) :
    List Document → Except Halt (List (String × String) × List Fault)
  | [] => .ok ([], [])
  | d :: ds =>
    match d.pair? part.keyField "label" with
    | some (key, label) => do
      let entry ← pairText key label
      let (pairs, faults) ← entries part (position + 1) ds
      return (entry :: pairs, faults)
    | none => do
      let (pairs, faults) ← entries part (position + 1) ds
      return (pairs, .incomplete part position :: faults)

/-- A part of a document; one that counts as nothing is empty. -/
def readPart (part : Part) (fields : List (Scalar × Document)) :
    Except Halt (List (String × String) × List Fault) :=
  match Document.field? part.plural fields with
  | none => .ok ([], [])
  | some d =>
    match d.items? with
    | some items => entries part 0 items
    | none => .ok ([], if d.isNothing then [] else [.notList part])

/-- The tables with the given entries, if nothing is wrong with them or with the form of the
document they come from. -/
def checked (formFaults : List Fault) (exact : Table String String)
    (stems : List (String × String)) : Except (List Fault) Heuristics :=
  if formFaults ≠ [] then .error (formFaults ++ tableFaults exact stems)
  else if h : tableFaults exact stems = [] then .ok ⟨exact, stems, h⟩
  else .error (tableFaults exact stems)

/-- The tables of the fields of a document. -/
def ofFields (fields : List (Scalar × Document)) : Except Refusal Heuristics := do
  let (exact, exactFaults) ← (readPart .exact fields).mapError .halted
  let (stems, stemFaults) ← (readPart .stems fields).mapError .halted
  (checked (exactFaults ++ stemFaults) (Table.ofPairs exact) stems).mapError .faulty

/-- The tables of a document; a document that counts as nothing has empty tables. -/
def ofDocument (d : Document) : Except Refusal Heuristics :=
  if d.isNothing then ofFields []
  else match d.entries? with
    | some fields => ofFields fields
    | none => .error (.faulty [.notMapping])

end KnitPattern.Heuristics
