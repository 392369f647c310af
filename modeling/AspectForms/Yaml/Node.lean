import AspectForms.Yaml.Token

/-!
The nodes of a YAML document.  An alias stays a node of its own, so a document with aliases stays as small
as its text.
-/

namespace AspectForms.Yaml

/-- A node, with its tag in full. -/
inductive Node
  | scalar (tag : Option String) (style : Style) (text : String)
  | sequence (tag : Option String) (items : List Node)
  | mapping (tag : Option String) (entries : List (Node × Node))
  /-- The node that bears this anchor. -/
  | alias (anchor : Nat)
deriving Inhabited

def Node.empty : Node := .scalar none .plain ""

mutual

/-- How often a reader of the whole node starts or ends a part of it. -/
def Node.size : Node → Nat
  | .sequence _ items => sizeOfItems items + 2
  | .mapping _ entries => sizeOfEntries entries + 2
  | _ => 1
termination_by structural n => n

def sizeOfItems : List Node → Nat
  | [] => 0
  | n :: ns => n.size + sizeOfItems ns
termination_by structural ns => ns

def sizeOfEntry : Node × Node → Nat
  | (k, v) => k.size + v.size
termination_by structural e => e

def sizeOfEntries : List (Node × Node) → Nat
  | [] => 0
  | e :: es => sizeOfEntry e + sizeOfEntries es
termination_by structural es => es

end

/-- A node that bears an anchor. -/
structure Anchored where
  anchor : Nat
  /-- How many anchored nodes start before it. -/
  start : Nat
  node : Node

end AspectForms.Yaml
