/-
  Tokens of YAML files: the scalars, the names and tags of nodes, and the marks of lists,
  mappings and documents. Where a block list or mapping begins and ends is seen from the
  indentation and has tokens too.
-/
import KnitPattern.Document.Yaml.Fault

namespace KnitPattern.Yaml

/-- A line about the whole file before its document. -/
inductive Directive where
  /-- The version of YAML, of which only the first number matters. -/
  | version (major : Nat)
  /-- What a handle stands for in tags. -/
  | handle (name meaning : List Char)
  | other
  deriving DecidableEq

/-- A tag as it is written: after a handle, or by itself. -/
structure Tag where
  handle : Option (List Char)
  suffix : List Char
  deriving DecidableEq

/-- A token of a file. -/
inductive Token where
  | directive (directive : Directive)
  | documentStart
  | documentEnd
  | blockListStart
  | blockMappingStart
  | blockEnd
  | flowListStart
  | flowListEnd
  | flowMappingStart
  | flowMappingEnd
  | blockEntry
  | flowEntry
  | key
  | value
  /-- The name of a node, which is to be used again. -/
  | anchor (name : List Char)
  /-- The node of a name. -/
  | alias (name : List Char)
  | tag (tag : Tag)
  /-- A scalar; only a plain one may stand for anything but its text. -/
  | scalar (text : List Char) (plain : Bool)
  /-- The place from which the text cannot be read. -/
  | fault (fault : Fault)
  deriving DecidableEq

end KnitPattern.Yaml
