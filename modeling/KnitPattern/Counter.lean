/-
  Counters: tallies of rows or stitches. Every increment that changes the value can be
  undone; a counter that is linked to the cursor moves it by the change it made.
-/
import KnitPattern.Cursor
import KnitPattern.Text.Blank
import KnitPattern.Text.Quoted

namespace KnitPattern

/-- What a counter counts. -/
inductive Counter.Kind where
  | row
  | stitch
  deriving DecidableEq

/-- A tally: its value, the values it had before, latest first, and whether it moves the
cursor. -/
structure Counter where
  id : String
  kind : Counter.Kind
  label : String
  value : Nat
  past : List Int
  linked : Bool
  deriving DecidableEq

namespace Counter

/-- The kind of a name. -/
def Kind.ofName? : String → Option Kind
  | "row" => some .row
  | "stitch" => some .stitch
  | _ => none

/-- The name of a kind. -/
def Kind.name : Kind → String
  | row => "row"
  | stitch => "stitch"

/-- The label of a counter that is given none. -/
def Kind.label : Kind → String
  | row => "Row"
  | stitch => "Stitch"

/-- Why there is no such counter. -/
inductive Fault where
  | unknownKind (name : String)
  | negative (given : Int)
  deriving DecidableEq

def Fault.message : Fault → String
  | unknownKind name => Text.quote name ++ " is not a valid CounterKind"
  | negative given => s!"counter value cannot be negative, got {given}"

/-- The value of a counter, unless it is negative. -/
def value? (given : Int) : Except Fault Nat :=
  if given < 0 then .error (.negative given) else .ok given.toNat

/-- A counter of a kind; a blank label is replaced by that of the kind. The values before
are not looked at until they are gone back to. -/
def new (id : String) (kind : Kind) (label : String) (value : Int) (past : List Int)
    (linked : Bool) : Except Fault Counter := do
  let label := if Text.trim label.toList = [] then kind.label else label
  return { id, kind, label, value := ← value? value, past, linked }

/-- Adds an amount, down to zero. Only a change is recorded. -/
def increment (c : Counter) (amount : Int) : Counter :=
  let value := (c.value + amount).toNat
  if value = c.value then c else { c with value, past := c.value :: c.past }

/-- Goes back to the latest value before, if there is one. -/
def undo (c : Counter) : Except Fault Counter :=
  match c.past with
  | [] => .ok c
  | v :: past => do return { c with value := ← value? v, past }

/-- Sets the value, down to zero, and records nothing. -/
def setValue (c : Counter) (value : Int) : Counter :=
  { c with value := value.toNat }

/-- Sets the label, unless it is blank. -/
def rename (c : Counter) (label : String) : Counter :=
  let title := Text.trim label.toList
  if title = [] then c else { c with label := String.ofList title }

/-- Adds an amount, and moves the cursor by the change if the counter is linked: by stitches,
or by rows. -/
def incrementLinked (c : Counter) (amount : Int) (rows : List Row) (cursor : Cursor) :
    Counter × Cursor.Move :=
  let c' := c.increment amount
  let change := (c'.value : Int) - c.value
  if !c.linked || change == 0 then (c', cursor.advance rows 0)
  else match c.kind with
    | .stitch => (c', cursor.advance rows change)
    | .row => (c', cursor.moveRows rows change)

end Counter

end KnitPattern
