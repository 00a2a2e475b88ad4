/-
  From the tokens of a YAML file to its nodes. A file holds one document at most; a value that
  is left out is an empty plain scalar. A name is given once, before it is used.
-/
import KnitPattern.Document.Yaml.Node

namespace KnitPattern.Yaml

/-- A point in the work on the tokens of a file: the tokens ahead; what the handles of tags
stand for; the nodes that have begun, the numbers of those that have ended, latest first, and
the nodes with names. -/
structure Composition where
  rest : List Token
  handles : List (List Char × List Char) := Kind.standardHandles
  nodes : Array Node := #[]
  ended : List Nat := []
  named : List (List Char × Nat) := []

/-- A step of the work on the tokens of a file. -/
abbrev Compose := StateT Composition (Except Fault)

/-- Where a node stands: inside of brackets, in a block, or as part of a mapping in a block,
where a list may stand at the indentation of the mapping. -/
inductive Site where
  | flow
  | block
  | inMapping
  deriving DecidableEq

/-- What stands before a node. -/
structure Properties where
  name : Option (List Char) := none
  tag : Option (List Char) := none

namespace Compose

def malformed {α : Type} : Compose α :=
  throw .malformed

/-! ## Tokens -/

/-- The next token, if there is one. -/
def ahead : Compose (Option Token) := do
  match (← get).rest with
  | .fault f :: _ => throw f
  | t :: _ => return some t
  | [] => return none

/-- Moves on by a token. -/
def advance : Compose Unit :=
  modify fun c => { c with rest := c.rest.drop 1 }

/-- Moves on past the given token, which must be next. -/
def expect (t : Token) : Compose Unit := do
  if (← ahead) = some t then advance else malformed

/-- Moves on past the given token if it is next. -/
def accept (t : Token) : Compose Bool := do
  if (← ahead) = some t then advance; return true
  else return false

/-- Whether the next token is one of the given ones. -/
def isAhead (marks : List Token) : Compose Bool := do
  return (← ahead).any marks.contains

/-! ## Nodes -/

/-- Begins a node. -/
def beginNode (kind : Kind) (content : Content) : Compose Nat := do
  let number := (← get).nodes.size
  modify fun c => { c with nodes := c.nodes.push ⟨kind, content⟩ }
  return number

/-- Ends a node. -/
def endNode (number : Nat) (content : Content) : Compose Unit :=
  modify fun c =>
    { c with
      nodes := c.nodes.modify number fun n => { n with content }
      ended := number :: c.ended }

/-- Gives a node its name, which no other node may have. -/
def checkName (p : Properties) : Compose Unit := do
  match p.name with
  | some name => if ((← get).named.lookup name).isSome then malformed
  | none => return

def giveName (p : Properties) (number : Nat) : Compose Unit :=
  match p.name with
  | some name => modify fun c => { c with named := (name, number) :: c.named }
  | none => return

/-- A scalar. -/
def scalar (p : Properties) (kind : Kind) (text : List Char) : Compose Nat := do
  checkName p
  let number ← beginNode kind (.scalar text)
  endNode number (.scalar text)
  giveName p number
  return number

/-- A list or mapping, whose parts are read by `read`. -/
def collection (p : Properties) (kind : Kind) (read : Compose Content) : Compose Nat := do
  checkName p
  let number ← beginNode (p.tag.elim kind Kind.ofTag) (.list [])
  giveName p number
  endNode number (← read)
  return number

/-- A value that is left out. -/
def absent : Compose Nat :=
  scalar {} .null []

/-! ## Properties -/

/-- The text of a tag, of which the tag `!` is as good as none for lists and mappings. -/
def tagText (t : Tag) : Compose (List Char) := do
  match t.handle with
  | none => return t.suffix
  | some handle =>
    match (← get).handles.lookup handle with
    | some meaning => return meaning ++ t.suffix
    | none => malformed

/-- A name, if one is next. -/
def name? : Compose (Option (List Char)) := do
  match ← ahead with
  | some (.anchor name) => advance; return some name
  | _ => return none

/-- A tag, if one is next. -/
def tag? : Compose (Option Tag) := do
  match ← ahead with
  | some (.tag tag) => advance; return some tag
  | _ => return none

/-- A name and a tag in either order, if they are next. -/
def properties : Compose Properties := do
  let first ← name?
  let tag ← tag?
  let name ← if first.isNone && tag.isSome then name? else pure first
  return { name, tag := ← tag.mapM tagText }

/-- The kind of a scalar: its tag names it, but the tag `!` has it told from the text. -/
def scalarKind (p : Properties) (text : List Char) (plain : Bool) : Kind :=
  match p.tag with
  | none => if plain then .ofPlain text else .text
  | some tag => if tag = ['!'] then .ofPlain text else .ofTag tag

/-! ## Lists and mappings -/

mutual

/-- A node. -/
def node (fuel : Nat) (site : Site) : Compose Nat :=
  match fuel with
  | 0 => malformed
  | fuel + 1 => do
    match ← ahead with
    | some (.alias name) =>
      advance
      match (← get).named.lookup name with
      | some number => return number
      | none => malformed
    | _ =>
      let p ← properties
      let p' := if p.tag = some ['!'] then { p with tag := none } else p
      match ← ahead with
      | some (.scalar text plain) =>
        advance
        scalar p (scalarKind p text plain) text
      | some .flowListStart =>
        advance
        collection p' .list (.list <$> flowItems fuel true)
      | some .flowMappingStart =>
        advance
        collection p' .mapping (.mapping <$> flowEntries fuel true)
      | t =>
        if t = some .blockEntry && site = .inMapping then
          collection p' .list (.list <$> looseItems fuel)
        else if t = some .blockListStart && site ≠ .flow then
          advance
          collection p' .list (.list <$> blockItems fuel)
        else if t = some .blockMappingStart && site ≠ .flow then
          advance
          collection p' .mapping (.mapping <$> blockEntries fuel)
        else if p.name.isSome || p.tag.isSome then scalar p (scalarKind p [] true) []
        else malformed

/-- A node, or nothing if one of the given marks is ahead. -/
def nodeUnless (fuel : Nat) (site : Site) (marks : List Token) : Compose Nat :=
  match fuel with
  | 0 => malformed
  | fuel + 1 => do
    if ← isAhead marks then absent else node fuel site

/-- A key, after its mark, and its value, if there is one. -/
def entry (fuel : Nat) (site : Site) (keyMarks valueMarks : List Token) :
    Compose (Nat × Nat) :=
  match fuel with
  | 0 => malformed
  | fuel + 1 => do
    let key ← nodeUnless fuel site keyMarks
    if ← accept .value then return (key, ← nodeUnless fuel site valueMarks)
    else return (key, ← absent)

/-- The items of a block list and its end. -/
def blockItems (fuel : Nat) : Compose (List Nat) :=
  match fuel with
  | 0 => malformed
  | fuel + 1 => do
    if ← accept .blockEntry then
      let item ← nodeUnless fuel .block [.blockEntry, .blockEnd]
      return item :: (← blockItems fuel)
    else
      expect .blockEnd
      return []

/-- The items of a list at the indentation of the mapping it stands in. -/
def looseItems (fuel : Nat) : Compose (List Nat) :=
  match fuel with
  | 0 => malformed
  | fuel + 1 => do
    if ← accept .blockEntry then
      let item ← nodeUnless fuel .block [.blockEntry, .key, .value, .blockEnd]
      return item :: (← looseItems fuel)
    else return []

/-- The entries of a block mapping and its end. -/
def blockEntries (fuel : Nat) : Compose (List (Nat × Nat)) :=
  match fuel with
  | 0 => malformed
  | fuel + 1 => do
    if ← accept .key then
      let marks := [.key, .value, .blockEnd]
      let e ← entry fuel .inMapping marks marks
      return e :: (← blockEntries fuel)
    else
      expect .blockEnd
      return []

/-- The items of a list between brackets, of which a comma stands before all but the first,
and the closing bracket. An entry of a mapping may be an item. -/
def flowItems (fuel : Nat) (first : Bool) : Compose (List Nat) :=
  match fuel with
  | 0 => malformed
  | fuel + 1 => do
    if ← accept .flowListEnd then return []
    if !first then expect .flowEntry
    if ← accept .flowListEnd then return []
    let item ←
      if ← accept .key then
        collection {} .mapping do
          let e ← entry fuel .flow [.value, .flowEntry, .flowListEnd] [.flowEntry, .flowListEnd]
          return .mapping [e]
      else node fuel .flow
    return item :: (← flowItems fuel false)

/-- The entries of a mapping between brackets, and the closing bracket. -/
def flowEntries (fuel : Nat) (first : Bool) : Compose (List (Nat × Nat)) :=
  match fuel with
  | 0 => malformed
  | fuel + 1 => do
    if ← accept .flowMappingEnd then return []
    if !first then expect .flowEntry
    if ← accept .flowMappingEnd then return []
    let e ←
      if ← accept .key then
        entry fuel .flow [.value, .flowEntry, .flowMappingEnd] [.flowEntry, .flowMappingEnd]
      else do
        let key ← node fuel .flow
        pure (key, ← absent)
    return e :: (← flowEntries fuel false)

end

/-! ## Documents -/

/-- Whether two directives may not stand in one file. -/
def clash : Directive → Directive → Bool
  | .version _, .version _ => true
  | .handle a _, .handle b _ => a = b
  | _, _ => false

/-- The directives before the mark of a document, of which those in `before` are known. -/
def directives (before : List Directive) : (fuel : Nat) → Compose (List Directive)
  | 0 => return before
  | fuel + 1 => do
    match ← ahead with
    | some (.directive d) =>
      advance
      if before.any (clash d) then malformed
      match d with
      | .version major => if major ≠ 1 then malformed
      | _ => pure ()
      directives (d :: before) fuel
    | _ => return before

/-- What the handles of tags stand for after some directives. -/
def handlesOf (ds : List Directive) : List (List Char × List Char) :=
  ds.filterMap (fun d => match d with
    | .handle name meaning => some (name, meaning)
    | _ => none) ++ Kind.standardHandles

/-- The document of a file, or an empty scalar if there is none. -/
def document (fuel : Nat) : Compose Nat := do
  match ← ahead with
  | none => absent
  | some (.directive _) | some .documentStart =>
    let ds ← directives [] fuel
    modify fun c => { c with handles := handlesOf ds }
    expect .documentStart
    match ← ahead with
    | none | some (.directive _) => absent
    | _ => nodeUnless fuel .block [.documentStart, .documentEnd]
  | _ => node fuel .block

/-- The ends of the document of a file, after which nothing may follow. -/
def documentEnds : (fuel : Nat) → Compose Unit
  | 0 => malformed
  | fuel + 1 => do
    match ← ahead with
    | none => return
    | some .documentEnd => advance; documentEnds fuel
    | _ =>
      let _ ← directives [] fuel
      malformed

/-- The document of a file and its end. -/
def file (fuel : Nat) : Compose Nat := do
  let root ← document fuel
  documentEnds fuel
  return root

end Compose

/-- The nodes of the tokens of a file. -/
def Graph.ofTokens (ts : List Token) : Except Fault Graph := do
  let (root, c) ← (Compose.file (4 * (ts.length + 1))).run { rest := ts }
  return { nodes := c.nodes, order := c.ended.reverse, root }

end KnitPattern.Yaml
