/-
  Octets, which a document may hold in place of a text. They are read from digits to the base
  64, four of which are three octets; characters that are no such digits are passed over. They
  are shown like a quoted text whose characters are all ASCII.
-/
import KnitPattern.Text.Quoted

namespace KnitPattern

/-- A run of octets. -/
abbrev Octets := List UInt8

namespace Octets

/-! ## Digits to the base 64 -/

/-- The value of a digit to the base 64. -/
def digit64? (c : Char) : Option Nat :=
  if 'A' ≤ c ∧ c ≤ 'Z' then some (c.toNat - 'A'.toNat)
  else if 'a' ≤ c ∧ c ≤ 'z' then some (c.toNat - 'a'.toNat + 26)
  else if '0' ≤ c ∧ c ≤ '9' then some (c.toNat - '0'.toNat + 52)
  else if c == '+' then some 62
  else if c == '/' then some 63
  else none

/-- The octets that are complete in a group of at most four digits. -/
def ofGroup : List Nat → Octets
  | a :: b :: more =>
    UInt8.ofNat (a * 4 + b / 16) ::
      match more with
      | [] => []
      | c :: more =>
        UInt8.ofNat (b % 16 * 16 + c / 4) ::
          match more with
          | [] => []
          | d :: _ => [UInt8.ofNat (c % 4 * 64 + d)]
  | _ => []

/-- The octets of a text that follows the digits `group` and, after them, `pads` equals signs.
Equals signs that complete a group of two or three digits are the end; without them the
groups must be complete. -/
def ofBase64From (group : List Nat) (pads : Nat) : List Char → Option Octets
  | [] => if group.isEmpty then some [] else none
  | c :: cs =>
    if c == '=' then
      if group.length < 2 then ofBase64From group pads cs
      else if group.length + pads < 3 then ofBase64From group (pads + 1) cs
      else some (ofGroup group)
    else match digit64? c with
      | none => ofBase64From group pads cs
      | some n =>
        if group.length < 3 then ofBase64From (group ++ [n]) 0 cs
        else (ofBase64From [] 0 cs).map (ofGroup (group ++ [n]) ++ ·)

/-- The octets of an ASCII text. -/
def ofBase64? (s : List Char) : Option Octets :=
  if s.all (·.toNat < 0x80) then ofBase64From [] 0 s else none

/-! ## Texts -/

/-- The characters that octets are in ASCII, with one that is neither a digit nor a blank for
the others. -/
def toChars (octets : Octets) : List Char :=
  octets.map fun b => if b < 0x80 then Char.ofNat b.toNat else '\uFFFD'

/-- One octet between the marks `mark`. -/
def showOctet (mark : Char) (b : UInt8) : List Char :=
  if b < 0x7F then Text.quoteChar mark (Char.ofNat b.toNat) else Text.escapeCodePoint b.toNat

/-- Octets as they are shown. -/
def shown (octets : Octets) : String :=
  let mark := Text.quoteMark octets.toChars
  String.ofList (['b', mark] ++ octets.flatMap (showOctet mark) ++ [mark])

end Octets

end KnitPattern
