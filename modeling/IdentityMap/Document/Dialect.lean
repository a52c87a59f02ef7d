import IdentityMap.Document.Node

/-!
# Dialects of documents

Which tree a text stands for and which numbers its scalars write is a matter of the dialect that
documents are written in. Whatever reads documents is defined for every dialect.
-/

namespace IdentityMap

class Dialect where
  load : String → Except SyntaxError Node
  uint32? : String → Option UInt32
  float? : String → Option Float

namespace Node

def text? : Node → Option String
  | .scalar text => some text
  | _ => none

variable [Dialect]

def uint32? (node : Node) : Option UInt32 :=
  node.text?.bind Dialect.uint32?

def float? (node : Node) : Option Float :=
  node.text?.bind Dialect.float?

end Node

end IdentityMap
