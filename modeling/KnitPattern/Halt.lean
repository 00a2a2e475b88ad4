/-
  What ends the reading of a whole text. A numeral may have at most 4300 digits, whether it is
  read or written; the copies of a repeat block are counted in 64 bits, and so are the bytes of
  the one list that its operations are laid out in. Everything else that is wrong with a text costs
  at most one of its rounds. That there may be no memory for a list within this bound is left out.
-/

namespace KnitPattern

/-- What ends the reading of a whole text. -/
inductive Halt where
  /-- A numeral of so many digits. -/
  | numeralTooLong (digits : Nat)
  /-- A number whose numeral would have too many digits to be written. -/
  | numberTooLong
  /-- A repeat block whose copies cannot be counted. -/
  | tooManyCopies
  /-- A repeat block whose operations are too many for one list. -/
  | tooManyOperations
  deriving DecidableEq

namespace Halt

/-- The most digits that a numeral may have. -/
def digitLimit : Nat := 4300

/-- Whether the numeral of a number may be written. -/
def isWritable (n : Int) : Bool :=
  n.natAbs < Nat.pow 10 digitLimit

/-- Whether a number of copies fits 64 bits with a sign. -/
def isCopyCount (n : Int) : Bool :=
  -Nat.pow 2 63 ≤ n && n < Nat.pow 2 63

/-- Whether one list has room for so many operations: it takes eight bytes for each of them, and
fewer than `2 ^ 63` bytes in all. -/
def canLayOut (n : Nat) : Bool :=
  n < Nat.pow 2 60

/-- What is said of a numeral over the limit, with a remark on its length. -/
def overLimit (length : String) : String :=
  s!"Exceeds the limit ({digitLimit} digits) for integer string conversion" ++ length ++
    "; use sys.set_int_max_str_digits() to increase the limit"

def message : Halt → String
  | numeralTooLong digits => overLimit s!": value has {digits} digits"
  | numberTooLong => overLimit ""
  | tooManyCopies => "cannot fit 'int' into an index-sized integer"
  | tooManyOperations => ""

end Halt

end KnitPattern
