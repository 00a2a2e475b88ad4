/-
  Documents from YAML files. The whole file is read before any of its scalars is interpreted,
  so a file that is not well formed is reported as such whatever it holds, but for escapes of
  characters that there are not and overlong version numbers, which end the reading: also in
  front of a piece of the file that holds a character that is not allowed.
-/
import KnitPattern.Document.Yaml.Composition
import KnitPattern.Document.Yaml.Layout
import KnitPattern.Document.Yaml.Lexer

namespace KnitPattern

/-- The document of the characters of a YAML file. -/
def Document.ofYaml (file : String) : Except Yaml.Fault Document := do
  let s := Yaml.unifyBreaks file.toList
  let graph ← Yaml.Graph.ofTokens (Yaml.tokens (Yaml.readable s))
  if !s.all Yaml.isAllowed then throw .malformed
  return (← graph.meanings).document graph.order graph.root

/-- What is said of a file that is not there. -/
def Document.missing (path : String) : String :=
  s!"YAML file not found: {path}"

end KnitPattern
