/-
  The shapes of stitch instructions. A shape says how an instruction is written; a stitch
  is an instruction of one of the shapes, with its count if it has one. Shapes are tried in
  the order of `Shape.all`, and the first that fits a whole token decides.
-/
import KnitPattern.Numeral

namespace KnitPattern

/-- How an instruction is written. -/
inductive Shape where
  | cableHold
  | cableFromNeedle
  | knitYarnKnit
  | yarnOver
  | centeredDecrease
  | decrease
  | slip
  | counted
  | single
  deriving DecidableEq

/-- An instruction of one of the shapes. -/
inductive Stitch where
  /-- Stitches are held on a cable needle; nothing is worked. -/
  | cableHold (held : Count)
  /-- The held stitches are knit. -/
  | cableFromNeedle (n : Count)
  /-- Knit, yarn over and knit into one stitch. -/
  | knitYarnKnit
  | yarnOver
  /-- Three stitches become one. -/
  | centeredDecrease
  /-- Stitches worked together into one. -/
  | decrease (n : Count)
  | slip (n : Count)
  /-- Stitches knit or purled one by one. -/
  | counted (n : Count)
  | single

namespace Shape

open Text Scan

/-- All shapes, in the order in which they are tried. -/
def all : List Shape :=
  [cableHold, cableFromNeedle, knitYarnKnit, yarnOver, centeredDecrease, decrease, slip,
    counted, single]

/-- The letter for a knit or a purl stitch. -/
def knitOrPurl : Scan Unit :=
  word "k" <|> word "p"

/-- Reads an instruction of a shape. -/
def scan : Shape → Scan Stitch
  | cableHold => do
    word "place"
    blanks1
    let n ← Count.scan
    blanks1
    word "st"
    optional (word "s")
    blanks1
    phrase ["on", "cn", "and", "hold"]
    blanks1
    phrase ["to", "the", "back"] <|> phrase ["in", "front"]
    return .cableHold n
  | cableFromNeedle => do
    word "k"
    let n ← Count.scan
    blanks1
    phrase ["from", "cn"]
    return .cableFromNeedle n
  | knitYarnKnit => do
    word "k1"
    blanks
    word "yo"
    blanks
    word "k1"
    return .knitYarnKnit
  | yarnOver => do
    word "yo"
    return .yarnOver
  | centeredDecrease => do
    word "cdd"
    return .centeredDecrease
  | decrease => do
    knitOrPurl
    let n ← Count.scan
    word "tog"
    optional do
      blanks
      word "tbl" <|> word "tlb"
    optional do
      blanks1
      phrase ["from", "cn"]
    return .decrease n
  | slip => do
    word "sl"
    blanks
    let n ← Count.scan
    return .slip n
  | counted => do
    knitOrPurl
    let n ← Count.scan
    return .counted n
  | single => do
    knitOrPurl
    return .single

end Shape

namespace Stitch

/-- The shape of an instruction. -/
def shape : Stitch → Shape
  | cableHold _ => .cableHold
  | cableFromNeedle _ => .cableFromNeedle
  | knitYarnKnit => .knitYarnKnit
  | yarnOver => .yarnOver
  | centeredDecrease => .centeredDecrease
  | decrease _ => .decrease
  | slip _ => .slip
  | counted _ => .counted
  | single => .single

/-- The instruction that a whole token spells, by the first shape that fits it. -/
def ofToken? (token : List Char) : Option Stitch :=
  Shape.all.findSome? fun s => Text.Scan.whole s.scan token

/-! ## What a stitch does -/

/-- The stitches read and made by an instruction and the cells it fills. -/
structure Counts where
  consume : Nat
  produce : Nat
  units : Nat
  units_pos : 0 < units

/-- The counts of an instruction. The number of stitches held on a cable needle is not
read, since holding them works none. -/
def counts : Stitch → Except Halt Counts
  | cableHold _ => .ok ⟨0, 0, 1, Nat.one_pos⟩
  | knitYarnKnit => .ok ⟨1, 3, 1, Nat.one_pos⟩
  | yarnOver => .ok ⟨0, 1, 1, Nat.one_pos⟩
  | centeredDecrease => .ok ⟨3, 1, 3, Nat.succ_pos 2⟩
  | single => .ok ⟨1, 1, 1, Nat.one_pos⟩
  | decrease n => n.read.map fun k => ⟨k.1, 1, k.1, k.2⟩
  | cableFromNeedle n => n.read.map even
  | slip n => n.read.map even
  | counted n => n.read.map even
where
  /-- As many stitches made as read, one cell for each. -/
  even (k : { k : Nat // 0 < k }) : Counts := ⟨k.1, k.1, k.1, k.2⟩

end Stitch

end KnitPattern
