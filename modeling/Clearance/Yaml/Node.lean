import Clearance.Yaml.Tag
import Clearance.Yaml.Token

/-!
# Nodes

The structure of a document: scalars, sequences and mappings with their tags.  Nodes that have a
name are kept beside the root and referred to by it, so that a document may refer to itself.
-/

namespace Clearance.Yaml

inductive Node where
  /-- A scalar is sound if its text consists of characters. -/
  | scalar (tag : Tag) (text : String) (sound : Bool)
  | sequence (tag : Tag) (items : List Node)
  | mapping (tag : Tag) (pairs : List (Node × Node))
  | reference (name : String)
  deriving Inhabited

/-- A document: its root, and the nodes that have a name in the order in which they end. -/
structure Graph where
  root : Node
  named : List (String × Node)

/-- The scalar that stands where there is nothing. -/
def Node.empty : Node :=
  .scalar .null "" true

end Clearance.Yaml
