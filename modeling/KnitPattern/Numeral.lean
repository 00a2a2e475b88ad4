/-
  Numerals: runs of decimal digits and the numbers they stand for. A count is a numeral
  that begins with an ASCII digit other than zero, so its value is positive.
-/
import KnitPattern.Halt
import KnitPattern.Text.Scan

namespace KnitPattern

namespace Numeral

open Text

/-- The number written by `n` followed by the given digits. -/
def extend (n : Nat) (ds : List Char) : Nat :=
  ds.foldl (fun n c => 10 * n + (digit? c).getD 0) n

/-- The number that a run of digits stands for. -/
def value (ds : List Char) : Nat :=
  extend 0 ds

/-- The number that a run of digits stands for, if the run is not too long. -/
def read (ds : List Char) : Except Halt Nat :=
  if ds.length ≤ Halt.digitLimit then .ok (value ds) else .error (.numeralTooLong ds.length)

theorem le_extend (n : Nat) (ds : List Char) : n ≤ extend n ds := by
  induction ds generalizing n with
  | nil => exact Nat.le_refl n
  | cons c ds ih => exact Nat.le_trans (by omega) (ih (10 * n + (digit? c).getD 0))

end Numeral

/-- A count: a first digit from 1 to 9, kept as its distance from 1, and the digits after it. -/
structure Count where
  lead : Fin 9
  rest : List Char

namespace Count

open Text

/-- How far an ASCII digit other than zero is from the digit 1. -/
def lead? (c : Char) : Option (Fin 9) :=
  if h : 0x31 ≤ c.toNat ∧ c.toNat ≤ 0x39 then some ⟨c.toNat - 0x31, by omega⟩ else none

/-- An ASCII digit from 1 to 9, then decimal digits of any script. -/
def scan : Scan Count := do
  let lead ← Scan.pick lead?
  let rest ← Scan.run isDigit
  return ⟨lead, rest⟩

/-- The number that a count stands for. -/
def value (n : Count) : Nat :=
  Numeral.extend (n.lead + 1) n.rest

theorem value_pos (n : Count) : 0 < n.value :=
  Nat.lt_of_lt_of_le (Nat.succ_pos _) (Numeral.le_extend _ _)

/-- The number that a count stands for, if it is not too long. -/
def read (n : Count) : Except Halt { k : Nat // 0 < k } :=
  if n.rest.length + 1 ≤ Halt.digitLimit then .ok ⟨n.value, n.value_pos⟩
  else .error (.numeralTooLong (n.rest.length + 1))

end Count

end KnitPattern
