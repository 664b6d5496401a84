/-
# Nodes from tokens

A document is at most one node.  It may be announced by directives and a marker,
and it may be closed by markers; a second document is refused.

A name stands for one node only, and a reference must come after the node of its
name has begun.  Where the grammar allows a node to be left out, null is meant.
-/

import Chip8.Yaml.Node
import Chip8.Yaml.Token.Lexer

namespace Chip8
namespace Yaml

/-- The tokens that are left, the nodes so far, and the names that some of them have. -/
structure Parser where
  tokens : List Token
  nodes : Nodes := #[]
  names : List (String × Nat) := []
  /-- The number of collections around the next token. -/
  depth : Nat := 0

/-- A step that reads a value from the tokens. -/
abbrev Parse (α : Type) := StateT Parser (Except DocumentError) α

/-- The beginnings of tags that handles stand for. -/
abbrev Handles := List (String × String)

namespace Parser

/-- The next token, or `none` at the end.  Where the tokens stop before the end, so does this. -/
def peek : Parse (Option Token) := do
  match (← get).tokens.head? with
  | some (.refused e) => throw e
  | t => return t

/-- Goes past the next token. -/
def skip : Parse Unit := modify fun p => { p with tokens := p.tokens.tail }

/-- Goes past a token that must come next. -/
def expect (t : Token) : Parse Unit := do
  if (← peek) = some t then skip else throw .malformed

/-- Whether the next token is one of some. -/
def nextIn (ts : List Token) : Parse Bool := do
  match ← peek with
  | some t => return ts.contains t
  | none => return false

/-- Goes past a token if it comes next, and says whether it did. -/
def accept (t : Token) : Parse Bool := do
  if (← peek) = some t then skip; return true else return false

/-- Adds a node. -/
def add (n : Node) : Parse Nat := do
  let k := (← get).nodes.size
  modify fun p => { p with nodes := p.nodes.push n }
  return k

/-- Adds a node with its name, if it has one, which must be new. -/
def addNamed (name? : Option String) (n : Node) : Parse Nat := do
  match name? with
  | none => add n
  | some name =>
    if (← get).names.any (·.1 = name) then throw .malformed
    let k ← add n
    modify fun p => { p with names := (name, k) :: p.names }
    return k

/-- Puts a node in the place of another one. -/
def replace (k : Nat) (n : Node) : Parse Unit :=
  modify fun p => { p with nodes := p.nodes.setIfInBounds k n }

/-- The number of collections that may stand inside each other. -/
def depthLimit : Nat := 490

/-- Reads what stands inside a collection. -/
def inside {α : Type} (read : Parse α) : Parse α := do
  let depth := (← get).depth
  if depthLimit ≤ depth then throw .tooDeep
  modify fun p => { p with depth := depth + 1 }
  let a ← read
  modify fun p => { p with depth }
  return a

/-- Adds a sequence whose items are read after it has got its number and its name. -/
def addSequence (name? : Option String) (tag : Tag) (items : Parse (List Nat)) : Parse Nat := do
  let k ← addNamed name? (.sequence tag [])
  replace k (.sequence tag (← inside items))
  return k

/-- Adds a mapping whose entries are read after it has got its number and its name. -/
def addMapping (name? : Option String) (tag : Tag) (entries : Parse (List (Nat × Nat))) :
    Parse Nat := do
  let k ← addNamed name? (.mapping tag [])
  replace k (.mapping tag (← inside entries))
  return k

/-- What stands in front of a node: a name and a tag, in any order. -/
structure Properties where
  name : Option String := none
  tag : Option String := none

/-- The full name of a tag. -/
def fullTag (handles : Handles) (handle : Option String) (suffix : String) : Parse String :=
  match handle with
  | none => return suffix
  | some handle =>
    match handles.find? (·.1 = handle) with
    | some (_, lead) => return lead ++ suffix
    | none => throw .malformed

/-- The name that comes next, if one does. -/
def name? : Parse (Option String) := do
  match ← peek with
  | some (.anchor name) => skip; return some name
  | _ => return none

/-- The tag that comes next, if one does. -/
def tag? : Parse (Option (Option String × String)) := do
  match ← peek with
  | some (.tag handle suffix) => skip; return some (handle, suffix)
  | _ => return none

/-- The properties that come next. -/
def properties (handles : Handles) : Parse Properties := do
  let before ← name?
  let written ← tag?
  let name ← if before.isNone && written.isSome then name? else pure before
  match written with
  | none => return { name }
  | some (handle, suffix) => return { name, tag := some (← fullTag handles handle suffix) }

/-- The tag of a collection, whose default is used if none is written. -/
def collectionTag (default : Tag) (tag : Option String) : Tag :=
  match tag with
  | none => default
  | some name => if name = "!" then default else Tag.ofName name

/-- The tag of a scalar: the one that is written, or the type that its form shows if it is
plain. -/
def scalarTag (text : Text) (plain : Bool) (tag : Option String) : Tag :=
  match tag with
  | none => if plain then Tag.ofPlain text else .str
  | some name => if name = "!" then Tag.ofPlain text else Tag.ofName name

/-- Where a node stands. -/
inductive Place where
  /-- Inside brackets. -/
  | flow
  /-- In a block. -/
  | block
  /-- As key or value in a block, where a sequence need not be indented. -/
  | entry
  deriving DecidableEq, Repr

/-- The tokens at which a key or a value in a block has been left out. -/
def afterEntry : List Token := [.key, .value, .blockEnd]

mutual

/-- A node. -/
def node (handles : Handles) (place : Place) : Nat → Parse Nat
  | 0 => throw .malformed
  | fuel + 1 => do
    match ← peek with
    | some (.reference name) =>
      match (← get).names.find? (·.1 = name) with
      | some (_, k) => skip; return k
      | none => throw .malformed
    | _ =>
      let p ← properties handles
      content handles place p fuel

/-- What stands after the properties of a node. -/
def content (handles : Handles) (place : Place) (p : Properties) : Nat → Parse Nat
  | 0 => throw .malformed
  | fuel + 1 => do
    match ← peek with
    | some (.scalar text plain) =>
      skip
      addNamed p.name (.scalar (scalarTag text plain p.tag) text)
    | some .flowSequenceStart =>
      skip
      addSequence p.name (collectionTag .seq p.tag) (flowItems handles true fuel)
    | some .flowMappingStart =>
      skip
      addMapping p.name (collectionTag .map p.tag) (flowEntries handles true fuel)
    | some .blockSequenceStart =>
      if place = .flow then throw .malformed
      skip
      addSequence p.name (collectionTag .seq p.tag) (blockItems handles fuel)
    | some .blockMappingStart =>
      if place = .flow then throw .malformed
      skip
      addMapping p.name (collectionTag .map p.tag) (blockEntries handles fuel)
    | t =>
      if place = .entry ∧ t = some .blockEntry then
        addSequence p.name (collectionTag .seq p.tag) (plainItems handles fuel)
      else if p.name.isSome ∨ p.tag.isSome then
        addNamed p.name (.scalar (scalarTag "" true p.tag) "")
      else throw .malformed

/-- The items of a sequence, each after a hyphen, up to the end of the block. -/
def blockItems (handles : Handles) : Nat → Parse (List Nat)
  | 0 => throw .malformed
  | fuel + 1 => do
    if ← accept .blockEntry then
      let item ← if ← nextIn [.blockEntry, .blockEnd] then add .empty else node handles .block fuel
      return item :: (← blockItems handles fuel)
    else
      expect .blockEnd
      return []

/-- The items of a sequence that is not indented. -/
def plainItems (handles : Handles) : Nat → Parse (List Nat)
  | 0 => throw .malformed
  | fuel + 1 => do
    if ← accept .blockEntry then
      let item ← if ← nextIn (.blockEntry :: afterEntry) then add .empty
        else node handles .block fuel
      return item :: (← plainItems handles fuel)
    else return []

/-- The entries of a mapping up to the end of the block. -/
def blockEntries (handles : Handles) : Nat → Parse (List (Nat × Nat))
  | 0 => throw .malformed
  | fuel + 1 => do
    if ← accept .key then
      let key ← if ← nextIn afterEntry then add .empty else node handles .entry fuel
      let value ←
        if ← accept .value then
          if ← nextIn afterEntry then add .empty else node handles .entry fuel
        else add .empty
      return (key, value) :: (← blockEntries handles fuel)
    else
      expect .blockEnd
      return []

/-- A key with its value inside brackets that end with `close`. -/
def flowPair (handles : Handles) (close : Token) : Nat → Parse (Nat × Nat)
  | 0 => throw .malformed
  | fuel + 1 => do
    let key ← if ← nextIn [.value, .flowEntry, close] then add .empty
      else node handles .flow fuel
    let value ←
      if ← accept .value then
        if ← nextIn [.flowEntry, close] then add .empty else node handles .flow fuel
      else add .empty
    return (key, value)

/-- The items of a sequence in brackets; an item may be a key with its value, which is a
mapping of its own. -/
def flowItems (handles : Handles) (first : Bool) : Nat → Parse (List Nat)
  | 0 => throw .malformed
  | fuel + 1 => do
    if ← accept .flowSequenceEnd then return []
    if !first then expect .flowEntry
    if ← accept .key then
      let item ← addMapping none .map (return [← flowPair handles .flowSequenceEnd fuel])
      return item :: (← flowItems handles false fuel)
    else if ← accept .flowSequenceEnd then return []
    else
      let item ← node handles .flow fuel
      return item :: (← flowItems handles false fuel)

/-- The entries of a mapping in braces; a key may have no value. -/
def flowEntries (handles : Handles) (first : Bool) : Nat → Parse (List (Nat × Nat))
  | 0 => throw .malformed
  | fuel + 1 => do
    if ← accept .flowMappingEnd then return []
    if !first then expect .flowEntry
    if ← accept .key then
      let entry ← flowPair handles .flowMappingEnd fuel
      return entry :: (← flowEntries handles false fuel)
    else if ← accept .flowMappingEnd then return []
    else
      let key ← node handles .flow fuel
      let value ← add .empty
      return (key, value) :: (← flowEntries handles false fuel)

end

/-! ### Documents -/

/-- The handles that every document has, unless it gives them another meaning. -/
def standardHandles : Handles := [("!", "!"), ("!!", Tag.lead)]

/-- The handles that directives declare; there may be one version, which must be 1, and one
meaning for each handle. -/
def directives : Nat → Bool → Handles → Parse Handles
  | 0, _, handles => return handles
  | fuel + 1, versioned, handles => do
    match ← peek with
    | some (.directive d) =>
      skip
      match d with
      | .version major =>
        if versioned ∨ major ≠ 1 then throw .malformed
        directives fuel true handles
      | .tag handle lead =>
        if handles.any (·.1 = handle) then throw .malformed
        directives fuel versioned (handles ++ [(handle, lead)])
      | .other => directives fuel versioned handles
    | _ => return handles

/-- Whether a token cannot begin the node of a document. -/
def endsDocument : Option Token → Bool
  | none | some (.directive _) | some .documentStart | some .documentEnd => true
  | _ => false

/-- Goes past the markers that close a document. -/
def documentEnds : Nat → Parse Unit
  | 0 => return
  | fuel + 1 => do
    if ← accept .documentEnd then documentEnds fuel

/-- The node of a document after its marker. -/
def announced (fuel : Nat) : Parse Nat := do
  let handles ← directives fuel false []
  expect .documentStart
  if endsDocument (← peek) then add .empty
  else node (handles ++ standardHandles) .block fuel

/-- The node of the only document, if there is one. -/
def document (fuel : Nat) : Parse (Option Nat) := do
  let root ← match ← peek with
    | none => return none
    | some (.directive _) | some .documentStart => announced fuel
    | some _ => node standardHandles .block fuel
  documentEnds fuel
  if (← peek).isSome then
    let _ ← directives fuel false []
    expect .documentStart
    throw .malformed
  return some root

end Parser

/-- The nodes that tokens make up and the number of the outermost one, if there is one. -/
def Nodes.ofTokens (ts : List Token) : Except DocumentError (Nodes × Option Nat) := do
  let (root, p) ← (Parser.document (3 * ts.length + 3)).run { tokens := ts }
  return (p.nodes, root)

end Yaml
end Chip8
