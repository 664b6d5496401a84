/-
# Documents

The document of a text.  Each node is given its value by its tag: a scalar by its
text, a collection by its parts.  A node has one value, wherever it is referred to.
A collection first stands there empty; the collections are filled in the order in
which they are come across, and the first error that is met counts.

When a mapping is filled, it takes over the entries of the mappings that are its
merge keys' values, for good.  They come before its own entries, and of a sequence
of mappings the last comes first.  A mapping that takes itself over has the entries
at that time that are left of it.  A collection cannot be a key.

Neither a scalar's text nor a mapping's entries are followed through too many nodes in
a row.
-/

import Chip8.Value.Key
import Chip8.Yaml.Node.Parser
import Chip8.Yaml.Tag.Value

namespace Chip8
namespace Yaml

namespace Nodes

/-- The number of nodes that may stand for each other in a row. -/
def rowLimit : Nat := 980

/-- The text of a node that is marked as a scalar: a mapping has the text of its entry `=`. -/
def scalarText (ns : Nodes) : Nat → Nat → Except DocumentError Text
  | 0, _ => .error .tooDeep
  | fuel + 1, k =>
    match ns.node k with
    | .scalar _ text => .ok text
    | .sequence .. => .error .malformed
    | .mapping _ entries =>
      match entries.find? fun e => ns.tag e.1 = .value with
      | some (_, v) => ns.scalarText fuel v
      | none => .error .malformed

/-- The value of a node that is no collection.  Every "not a number" has its own origin,
but those that are written as the word for it have the same one. -/
def scalarKey (ns : Nodes) (k : Nat) : Except DocumentError Key := do
  let tag := ns.tag k
  if !tag.isScalar then throw .malformed
  let text ← ns.scalarText rowLimit k
  match tag, ns.node k with
  | .timestamp, .mapping .. => throw .dateMapping
  | _, _ =>
    let value ← tag.scalarValue text
    return { value, origin := if Tag.isNanWord text then 0 else k + 1 }

/-- The first merge key's value, and the entries without that key. -/
def splitMerge (ns : Nodes) : List (Nat × Nat) → Option (Nat × List (Nat × Nat))
  | [] => none
  | (k, v) :: rest =>
    if ns.tag k = .merge then some (v, rest)
    else (ns.splitMerge rest).map fun (found, rest) => (found, (k, v) :: rest)

/-- The number of entries of all mappings. -/
def entryCount (ns : Nodes) : Nat := ns.foldl (fun n node => n + node.entries.length) 0

/-- A bound on the number of steps in which a mapping's merge keys are followed. -/
def mergeFuel (ns : Nodes) (k : Nat) : Nat :=
  if (ns.node k).entries.any fun e => ns.tag e.1 = .merge then ns.entryCount + 1 else 1

end Nodes

/-- The state between two steps of building. -/
structure Builder where
  nodes : Nodes
  /-- The values of the nodes that were come across. -/
  keys : Array (Option Key)
  /-- The collections that are filled. -/
  collections : Array Collection
  /-- The collections that are not, the last one first. -/
  waiting : List Nat := []

/-- A step that gives a value to nodes. -/
abbrev Build (α : Type) := StateT Builder (Except DocumentError) α

namespace Builder

/-- The node of a number. -/
def node (k : Nat) : Build Node := return (← get).nodes.node k

/-- Changes a node. -/
def change (k : Nat) (f : Node → Node) : Build Unit :=
  modify fun b => { b with nodes := b.nodes.modify k f }

/-- The value of a node, which may become a key. -/
def key (k : Nat) : Build Key := do
  let b ← get
  match b.keys.getD k none with
  | some key => return key
  | none =>
    let isCollection := (b.nodes.tag k).isCollection
    let key ←
      if isCollection then pure { value := .collection k, origin := 0 } else b.nodes.scalarKey k
    modify fun b => { b with
      keys := b.keys.setIfInBounds k (some key)
      waiting := if isCollection then k :: b.waiting else b.waiting }
    return key

/-- The value of a node. -/
def value (k : Nat) : Build Value := return (← key k).value

/-- A key that is a text of its own, where it is no longer the special key `=`. -/
def plainKey (k : Nat) : Build Unit :=
  change k fun n => if n.tag = .value then n.withTag .str else n

/-- Puts the entries that its merge keys stand for in the place of these keys, where so many other
mappings wait for them; `mixed` are the entries found so far.  Each step drops a merge key for
good, so the number of all entries bounds them. -/
def mixIn (waiting : Nat) : Nat → Nat → List (Nat × Nat) → Build Unit
  | 0, _, _ => return
  | fuel + 1, k, mixed => do
    if Nodes.rowLimit ≤ waiting then throw .mergedTooDeep
    let entries := (← node k).entries
    match (← get).nodes.splitMerge entries with
    | none =>
      entries.forM fun e => plainKey e.1
      change k (·.withEntries (mixed ++ entries))
    | some (source, rest) =>
      change k (·.withEntries rest)
      let more ← match ← node source with
        | .mapping .. => do
          mixIn (waiting + 1) fuel source []
          pure (← node source).entries
        | .sequence _ items => do
          let parts ← items.mapM fun item => do
            match ← node item with
            | .mapping .. =>
              mixIn (waiting + 1) fuel item []
              return (← node item).entries
            | _ => throw .malformed
          pure parts.reverse.flatten
        | .scalar .. => throw .malformed
      mixIn waiting fuel k (mixed ++ more)

/-- The entries of a mapping, one for each key. -/
def entries (k : Nat) : Build (List (Value × Value)) := do
  mixIn 0 ((← get).nodes.mergeFuel k) k []
  let built ← (← node k).entries.foldlM (fun built (k, v) => do
    let key ← key k
    if key.value matches .collection _ then throw .malformed
    return key.put (← value v) built) #[]
  return built.toList.map fun (key, v) => (key.value, v)

/-- The single entry of a mapping. -/
def pair (k : Nat) : Build (Value × Value) := do
  match ← node k with
  | .mapping _ [(k, v)] => return (← value k, ← value v)
  | _ => throw .malformed

/-- The collection that a node stands for. -/
def collection (k : Nat) : Build Collection := do
  match ← node k with
  | .sequence .seq items => return .list (← items.mapM value)
  | .sequence .omap items | .sequence .pairs items => return .pairs (← items.mapM pair)
  | .mapping .map _ => return .map (← entries k)
  | .mapping .set _ => return .set ((← entries k).map (·.1))
  | _ => throw .malformed

/-- Fills the collections that wait, then those that were come across meanwhile, and so on. -/
def fill : Nat → Build Unit
  | 0 => return
  | fuel + 1 => do
    let ks := (← get).waiting.reverse
    if ks.isEmpty then return
    modify fun b => { b with waiting := [] }
    ks.forM fun k => do
      let c ← collection k
      modify fun b => { b with collections := b.collections.setIfInBounds k c }
    fill fuel

/-- The value of a node, with all collections in it filled. -/
def root (k : Nat) : Build Value := do
  let v ← value k
  fill ((← get).nodes.size + 1)
  return v

end Builder

/-- The document of nodes. -/
def Nodes.document (ns : Nodes) (root : Nat) : Except DocumentError Document := do
  let (v, b) ← (Builder.root root).run
    { nodes := ns
      keys := Array.replicate ns.size none
      collections := Array.replicate ns.size (.list []) }
  return ⟨b.collections, v⟩

/-- The document of characters; without a node it is null. -/
def documentOfChars (cs : List Char) : Except DocumentError Document := do
  match ← Nodes.ofTokens (Token.ofChars cs false) with
  | (_, none) => return {}
  | (ns, some root) => ns.document root

end Yaml
end Chip8
