/-
# Nodes of a document

A document is made of scalars, sequences and mappings, its nodes, each with a tag.
They are numbered in the order in which they begin, and a collection names its
parts by their numbers: so a node that is referred to elsewhere, perhaps from
inside itself, is still a single one.
-/

import Chip8.Yaml.Tag

namespace Chip8
namespace Yaml

/-- A node of a document. -/
inductive Node where
  | scalar (tag : Tag) (text : Text)
  | sequence (tag : Tag) (items : List Nat)
  | mapping (tag : Tag) (entries : List (Nat × Nat))
  deriving Repr

namespace Node

/-- What is meant where a node is left out. -/
def empty : Node := scalar .null ""

/-- The tag of a node. -/
def tag : Node → Tag
  | scalar tag _ | sequence tag _ | mapping tag _ => tag

/-- A node with another tag. -/
def withTag (tag : Tag) : Node → Node
  | scalar _ text => scalar tag text
  | sequence _ items => sequence tag items
  | mapping _ entries => mapping tag entries

/-- The entries of a mapping; other nodes have none. -/
def entries : Node → List (Nat × Nat)
  | mapping _ entries => entries
  | _ => []

/-- A mapping with other entries; other nodes stay as they are. -/
def withEntries (entries : List (Nat × Nat)) : Node → Node
  | mapping tag _ => mapping tag entries
  | n => n

end Node

/-- The nodes of a document by their numbers. -/
abbrev Nodes := Array Node

namespace Nodes

/-- The node of a number. -/
def node (ns : Nodes) (k : Nat) : Node := ns.getD k .empty

/-- The tag of the node of a number. -/
def tag (ns : Nodes) (k : Nat) : Tag := (ns.node k).tag

end Nodes
end Yaml
end Chip8
