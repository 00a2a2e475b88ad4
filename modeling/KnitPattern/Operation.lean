/-
  Operations: one instruction of a round as the stitches it takes from the working row,
  the stitches it makes, and the cells it fills in the timeline.
-/
import KnitPattern.Halt

namespace KnitPattern

/-- What is remarked about an operation. -/
inductive Operation.Remark where
  /-- No stitch shape fits the instruction. -/
  | unrecognized (code : String)
  /-- The instruction covers more stitches than the limit. -/
  | tooWide (code : String) (limit : Int)
  /-- A remark given by the caller. -/
  | noted (text : String)
  deriving DecidableEq

/-- One instruction: it reads `consume` stitches, makes `produce` stitches, and fills
`units` cells. -/
structure Operation where
  code : String
  label : String
  consume : Nat
  produce : Nat
  units : Nat
  remark : Option Operation.Remark := none
  units_pos : 0 < units := by omega
  deriving DecidableEq

namespace Operation

def Remark.message : Remark → String
  | unrecognized code => s!"Unrecognized instruction \"{code}\" counted as 1 stitch"
  | tooWide code limit =>
    s!"Instruction \"{code}\" exceeds {limit} stitches; counted as 1 stitch"
  | noted text => text

/-- Whether the message of a remark can be written. -/
def Remark.isWritable : Remark → Bool
  | unrecognized _ | noted _ => true
  | tooWide _ limit => Halt.isWritable limit

/-- The operation, if the message of its remark can be written. -/
def written (op : Operation) : Except Halt Operation :=
  if op.remark.all Remark.isWritable then .ok op else .error .numberTooLong

/-- The net change in live stitches. -/
def delta (op : Operation) : Int :=
  op.produce - op.consume

/-- One stitch worked even, with a remark: what an instruction that cannot be counted
stands for. -/
def guess (code label : String) (remark : Remark) : Operation :=
  { code, label, consume := 1, produce := 1, units := 1, remark := some remark }

/-! ## Operations from given numbers -/

/-- Why three numbers make no operation. -/
inductive Fault where
  | negativeConsume (given : Int)
  | negativeProduce (given : Int)
  | unitsBelowOne (given : Int)
  deriving DecidableEq

def Fault.message : Fault → String
  | negativeConsume given => s!"consume must be >= 0, got {given}"
  | negativeProduce given => s!"produce must be >= 0, got {given}"
  | unitsBelowOne given => s!"units must be >= 1, got {given}"

/-- An operation from given numbers, checked in the order of its fields. -/
def checked (code label : String) (consume produce units : Int) (remark : Option Remark) :
    Except Fault Operation :=
  if consume < 0 then .error (.negativeConsume consume)
  else if produce < 0 then .error (.negativeProduce produce)
  else if h : units < 1 then .error (.unitsBelowOne units)
  else .ok { code, label, consume := consume.toNat, produce := produce.toNat,
             units := units.toNat, remark }

end Operation

end KnitPattern
