import AspectForms.Document.Mismatch

/-!
A part of a document held in memory before it is known what it should be.  Scalars have got their types
by then, so a number is no longer a text.
-/

namespace AspectForms.Document

/-- A node with typed scalars; a key may be any node. -/
inductive Buffer
  | null
  | bool (b : Bool)
  | int (i : Int)
  | float (f : Float)
  | string (s : String)
  | array (items : List Buffer)
  | object (entries : List (Buffer × Buffer))
deriving Inhabited

namespace Buffer

/-- What a mismatch says about this node. -/
def found : Buffer → Found
  | null => .null
  | bool b => .bool b
  | int i => .int i
  | float f => .float f
  | string s => .string s
  | array _ => .sequence
  | object _ => .map

mutual

/-- The levels of nesting. -/
def depth : Buffer → Nat
  | array items => depthItems items + 1
  | object entries => depthEntries entries + 1
  | _ => 0
termination_by structural b => b

/-- The levels of nesting of the deepest item. -/
def depthItems : List Buffer → Nat
  | [] => 0
  | b :: bs => max b.depth (depthItems bs)
termination_by structural bs => bs

def depthEntry : Buffer × Buffer → Nat
  | (k, v) => max k.depth v.depth
termination_by structural e => e

/-- The levels of nesting of the deepest entry. -/
def depthEntries : List (Buffer × Buffer) → Nat
  | [] => 0
  | e :: es => max (depthEntry e) (depthEntries es)
termination_by structural es => es

end

mutual

/-- The free value of a node.  Keys must be texts; a double that is not finite becomes `null`. -/
def value : Buffer → Result Value
  | null => return .null
  | bool b => return .bool b
  | int i => return .number (.int i)
  | float f => return if f.isFinite then .number (.float f) else .null
  | string s => return .string s
  | array items => return .array (← valueItems items)
  | object entries => return .ofEntries (← valueEntries entries)
termination_by structural b => b

def valueItems : List Buffer → Result (List Value)
  | [] => return []
  | b :: bs => do
    let v ← b.value
    return v :: (← valueItems bs)
termination_by structural bs => bs

def valueEntry : Buffer × Buffer → Result (String × Value)
  | (string k, v) => return (k, ← v.value)
  | (k, _) => refuse (.invalidType k.found "a string key")
termination_by structural e => e

/-- The keys and free values of all entries. -/
def valueEntries : List (Buffer × Buffer) → Result (List (String × Value))
  | [] => return []
  | e :: es => do
    let f ← valueEntry e
    return f :: (← valueEntries es)
termination_by structural es => es

end

end Buffer

end AspectForms.Document
