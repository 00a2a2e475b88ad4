/-
  What the nodes of a YAML file stand for. The work goes from the document inwards, one level
  after another: when a list or mapping is looked into, its scalars get their values, and the
  lists and mappings among its parts are left for later. So of several faults the one nearest
  to the whole document is found, and of these the first in the text.
-/
import KnitPattern.Document.MemberOrder
import KnitPattern.Document.Yaml.Node
import KnitPattern.Document.Yaml.Value

namespace KnitPattern.Yaml

/-- What a node stands for; the parts of lists and mappings are given by their numbers. -/
inductive Meaning where
  | scalar (value : Scalar)
  | list (items : List Nat)
  | mapping (entries : List (Scalar × Nat))
  | pairs (items : List (Nat × Nat))
  | set (members : List Scalar)

/-- How far the work on a node has come. -/
inductive Stage where
  | unmet
  /-- A list or mapping that is not looked into yet. -/
  | waiting
  | known (meaning : Meaning)

/-- A point in the work on the nodes of a file: the nodes, what is known of them, and the
numbers of those that wait, latest first. -/
structure Interpretation where
  nodes : Array Node
  stages : Array Stage
  waiting : List Nat := []

/-- A step of the work on the nodes of a file. -/
abbrev Interpret := StateT Interpretation (Except Fault)

/-- A key of a mapping. The floating-point value that is no number is one key wherever it is named
`.nan`; computed in another way it is a key of its own at every node. -/
structure Key where
  value : Scalar
  node : Option Nat := none

instance : BEq Key := ⟨fun a b => a.value == b.value && a.node == b.node⟩

namespace Interpret

def malformed {α : Type} : Interpret α :=
  throw .malformed

/-! ## Nodes -/

/-- The node of a number. -/
def node (number : Nat) : Interpret Node := do
  return (← get).nodes.getD number .unread

/-- How far the work on the node of a number has come. -/
def stage (number : Nat) : Interpret Stage := do
  return (← get).stages.getD number .unmet

/-- Puts down how far the work on a node has come. -/
def setStage (number : Nat) (s : Stage) : Interpret Unit :=
  modify fun i => { i with stages := i.stages.set! number s }

/-- Changes a node. -/
def change (number : Nat) (f : Node → Node) : Interpret Unit :=
  modify fun i => { i with nodes := i.nodes.modify number f }

/-- Changes the entries of a mapping. -/
def setEntries (number : Nat) (entries : List (Nat × Nat)) : Interpret Unit :=
  change number fun n => { n with content := .mapping entries }

/-! ## Scalars -/

/-- The text of a node, on a way of at most `fuel` nodes: for a mapping that has a default value,
the text of that. -/
def textWithin : (fuel : Nat) → Node → Interpret (List Char)
  | 0, _ => throw .endless
  | fuel + 1, n => do
    match n.content with
    | .scalar text => return text
    | .list _ => malformed
    | .mapping entries =>
      match ← entries.findM? fun e => return (← node e.1).kind = .default with
      | some (_, value) => textWithin fuel (← node value)
      | none => malformed

/-- The text of a node. A way that is longer than the file has nodes comes to no end. -/
def textOf (n : Node) : Interpret (List Char) := do
  textWithin ((← get).nodes.size + 1) n

/-- The value of a node of a kind of scalars. -/
def scalar (n : Node) : Interpret Scalar := do
  if n.kind ∈ [.merge, .default, .unknown] then malformed
  let text ← textOf n
  match n.kind, n.content with
  | .time, .mapping _ => throw .dateOfMapping
  | _, _ => liftM (scalarValue n.kind text)

/-- Meets a node: a scalar gets its value, and a list or mapping is left to wait. -/
def meet (number : Nat) : Interpret Unit := do
  match ← stage number with
  | .unmet =>
    let n ← node number
    if n.kind ∈ [.list, .mapping, .pairs, .set] then
      setStage number .waiting
      modify fun i => { i with waiting := number :: i.waiting }
    else setStage number (.known (.scalar (← scalar n)))
  | _ => return

/-- The key that a node is. -/
def key (number : Nat) : Interpret Key := do
  meet number
  match ← stage number with
  | .known (.scalar (.real .nan)) =>
    let named := (realBody (← textOf (← node number))).2 = nanName
    return { value := .real .nan, node := if named then none else some number }
  | .known (.scalar value) => return { value }
  | _ => malformed

/-! ## Mappings -/

/-- The entries that a value gives to the mapping it is merged into: a mapping its own, and a
list of mappings those of the last one first. What is merged into those mappings is merged by
`flatten` before. -/
def mergedEntries (flatten : Nat → Interpret Unit) (value : Nat) :
    Interpret (List (Nat × Nat)) := do
  let entriesOf := fun number => do
    match (← node number).content with
    | .mapping _ =>
      flatten number
      return (← node number).entries
    | _ => malformed
  match (← node value).content with
  | .list items => return (← items.mapM entriesOf).reverse.flatten
  | _ => entriesOf value

/-- Goes through the entries of a mapping from a position on. Those of merged mappings, with
`merged` before them, are put before its own at the end, and the keys of default values are
texts from now on. -/
def flattenFrom (fuel number position : Nat) (merged : List (Nat × Nat)) : Interpret Unit :=
  match fuel with
  | 0 => return
  | fuel + 1 => do
    let entries := (← node number).entries
    match entries[position]? with
    | none => setEntries number (merged ++ entries)
    | some (key, value) =>
      match (← node key).kind with
      | .merge =>
        setEntries number (entries.eraseIdx position)
        let more ← mergedEntries (fun n => flattenFrom fuel n 0 []) value
        flattenFrom fuel number position (merged ++ more)
      | .default =>
        change key fun n => { n with kind := .text }
        flattenFrom fuel number (position + 1) merged
      | _ => flattenFrom fuel number (position + 1) merged

/-- Puts the entries of the mappings that are merged into a mapping before its own. The work is
bounded by the entries of all mappings. -/
def flatten (number : Nat) : Interpret Unit := do
  let keys ← (← node number).entries.mapM fun e => node e.1
  if keys.any fun n => n.kind = .merge || n.kind = .default then
    let size := ((← get).nodes.map fun n => n.entries.length + 1).foldr (· + ·) 0
    flattenFrom (size * size + 1) number 0 []

/-- The entries of a mapping, each key once. Of entries with one key the last gives the value. -/
def table (number : Nat) : Interpret (List (Scalar × Nat)) := do
  match (← node number).content with
  | .mapping _ =>
    flatten number
    let start : Table Key Nat := []
    let t ← (← node number).entries.foldlM (fun t (k, value) => do
      let k ← key k
      meet value
      return t.put k value) start
    return t.map fun (k, value) => (k.value, value)
  | _ => malformed

/-! ## The whole document -/

/-- The pair that an item of a list of pairs is written as. -/
def pairOf (number : Nat) : Interpret (Nat × Nat) := do
  match (← node number).content with
  | .mapping [(first, second)] =>
    meet first
    meet second
    return (first, second)
  | _ => malformed

/-- Looks into a list or mapping. -/
def lookInto (number : Nat) : Interpret Unit := do
  let n ← node number
  let meaning ← match n.kind, n.content with
    | .list, .list items =>
      items.forM meet
      pure (Meaning.list items)
    | .pairs, .list items => Meaning.pairs <$> items.mapM pairOf
    | .mapping, _ => Meaning.mapping <$> table number
    | .set, _ => (fun t => Meaning.set (inMemberOrder (t.map (·.1)))) <$> table number
    | _, _ => malformed
  setStage number (.known meaning)

/-- Looks into all that waits, level by level. -/
def levels : (fuel : Nat) → Interpret Unit
  | 0 => return
  | fuel + 1 => do
    let waiting := (← get).waiting.reverse
    if waiting.isEmpty then return
    modify fun i => { i with waiting := [] }
    waiting.forM lookInto
    levels fuel

end Interpret

/-- What the nodes of a file stand for; nothing is known of nodes that the document does not
consist of. -/
abbrev Meanings := Array (Option Meaning)

/-- What the nodes of a file stand for. -/
def Graph.meanings (g : Graph) : Except Fault Meanings := do
  let start : Interpretation :=
    { nodes := g.nodes, stages := Array.replicate g.nodes.size .unmet }
  let work : Interpret Unit := do
    Interpret.meet g.root
    Interpret.levels (g.nodes.size + 1)
  let (_, last) ← work.run start
  return last.stages.map fun
    | .known m => some m
    | _ => none

end KnitPattern.Yaml
