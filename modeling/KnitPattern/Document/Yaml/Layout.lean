/-
  From the meanings of the nodes of a YAML file to documents. A document is put together from its
  parts. One that is part of itself has a text of its own, in which every return to a part that is
  being written is cut short, and is laid out to a depth that nobody looks beyond.
-/
import KnitPattern.Document.Yaml.Meaning

namespace KnitPattern.Yaml

namespace Meaning

/-- The parts of a list or mapping. -/
def parts : Meaning → List Nat
  | list items => items
  | mapping entries => entries.map (·.2)
  | pairs items => items.flatMap fun p => [p.1, p.2]
  | scalar _ | set _ => []

/-- The document that a meaning is, given the documents of its parts. -/
def document (part : Nat → Document) : Meaning → Document
  | scalar value => .scalar value
  | list items => .list (items.map part)
  | mapping entries => .mapping (entries.map fun e => (e.1, part e.2))
  | pairs items => .list (items.map fun p => .pair (part p.1) (part p.2))
  | set members => .set members

/-- The text of a meaning, given the texts of its parts. -/
def text (part : Nat → Except Halt String) : Meaning → Except Halt String
  | scalar value => value.shown
  | list items => (items.mapM part).map Document.listText
  | mapping entries => do
    let shown ← entries.mapM fun (k, n) => do
      return Document.entryText (← k.shown) (← part n)
    return Document.mappingText shown
  | pairs items => do
    let shown ← items.mapM fun (a, b) => do
      return Document.pairText (← part a) (← part b)
    return Document.listText shown
  | set members => Document.setText members

/-- What is written for a part that is being written already. -/
def cut : Meaning → String
  | mapping _ => "\x7b...\x7d"
  | _ => "[...]"

end Meaning

namespace Meanings

/-- The meaning of the node of a number. -/
def at? (ms : Meanings) (number : Nat) : Option Meaning :=
  (ms[number]?).join

/-- The parts of a node. -/
def parts (ms : Meanings) (number : Nat) : List Nat :=
  ((ms.at? number).map Meaning.parts).getD []

/-! ## Nodes that are part of themselves -/

/-- The nodes that are parts of the given ones, at any depth, with those in `found`. -/
def within (ms : Meanings) (found : List Nat) : (fuel : Nat) → List Nat → List Nat
  | 0, _ => found
  | _, [] => found
  | fuel + 1, n :: ns =>
    if found.contains n then within ms found fuel ns
    else within ms (n :: found) fuel (ms.parts n ++ ns)

/-- Whether a node is part of itself. -/
def isKnot (ms : Meanings) (number : Nat) : Bool :=
  let edges := ((List.range ms.size).map fun n => (ms.parts n).length).foldr (· + ·) 0
  (ms.within [] (2 * edges + 1) (ms.parts number)).contains number

/-- Whether in an order of nodes each comes after all of its parts. -/
def isSettled (ms : Meanings) (order : List Nat) : Bool :=
  let start := (Array.replicate ms.size false, true)
  (order.foldl (fun (before, settled) n =>
    (before.set! n true, settled && (ms.parts n).all fun i => before.getD i false)) start).2

/-- The text of a node inside of those in `around`. -/
def text (ms : Meanings) (around : List Nat) : (fuel : Nat) → Nat → Except Halt String
  | 0, _ => .ok ""
  | fuel + 1, n =>
    match ms.at? n with
    | none => .ok ""
    | some m =>
      if around.contains n then .ok m.cut else m.text (ms.text (n :: around) fuel)

/-! ## Documents -/

/-- The documents of nodes: each is put together from those of its parts, as far as they are
known. -/
def layOut (ms : Meanings) (knots : List Nat) (order : List Nat) (ds : Array Document) :
    Array Document :=
  order.foldl (fun ds n =>
    match ms.at? n with
    | none => ds
    | some m =>
      let d := m.document fun i => ds.getD i .null
      ds.set! n (if knots.contains n then .knot (ms.text [] (ms.size + 1) n) d else d)) ds

/-- How deep a document that is part of itself is laid out: deeper than glossaries, label
tables and settings are looked into. -/
def knotDepth : Nat := 8

/-- The document of a node. -/
def document (ms : Meanings) (order : List Nat) (root : Nat) : Document :=
  let start := Array.replicate ms.size Document.null
  let ds :=
    if ms.isSettled order then ms.layOut [] order start
    else
      let knots := order.filter ms.isKnot
      knotDepth.repeat (ms.layOut knots order) start
  ds.getD root .null

end Meanings

end KnitPattern.Yaml
