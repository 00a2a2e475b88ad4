/-
  The nodes of a YAML file. Every node has a number, by which the nodes that it is part of refer
  to it: a node with a name may be used in several places, even inside of itself.
-/
import KnitPattern.Document.Yaml.Kind

namespace KnitPattern.Yaml

/-- What a node is made of. -/
inductive Content where
  | scalar (text : List Char)
  | list (items : List Nat)
  | mapping (entries : List (Nat × Nat))

/-- A part of a file. -/
structure Node where
  kind : Kind
  content : Content

/-- The nodes of a file: in the order in which they begin, and their numbers in the order in
which they end, so that a node comes after its parts if it is not part of itself. -/
structure Graph where
  nodes : Array Node
  order : List Nat
  root : Nat

namespace Node

/-- A node of which nothing is known yet. -/
def unread : Node :=
  ⟨.unknown, .list []⟩

/-- The entries of a mapping. -/
def entries (n : Node) : List (Nat × Nat) :=
  match n.content with
  | .mapping entries => entries
  | _ => []

end Node

end KnitPattern.Yaml
