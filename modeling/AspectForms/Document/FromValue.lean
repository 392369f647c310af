import AspectForms.Document.Source

/-!
Reading from a free value.
-/

namespace AspectForms.Document

/-- What a mismatch says about a value. -/
def Found.ofValue : Value → Found
  | .null => .null
  | .bool b => .bool b
  | .number (.int i) => .int i
  | .number (.float f) => .float f
  | .string s => .string s
  | .array _ => .sequence
  | .object _ => .map

namespace Buffer

mutual

/-- The node that holds a value. -/
def ofValue : Value → Buffer
  | .null => null
  | .bool b => bool b
  | .number (.int i) => int i
  | .number (.float f) => float f
  | .string s => string s
  | .array items => array (ofValues items)
  | .object fields => object (ofFields fields)
termination_by structural v => v

def ofValues : List Value → List Buffer
  | [] => []
  | v :: vs => ofValue v :: ofValues vs
termination_by structural vs => vs

def ofField : String × Value → Buffer × Buffer
  | (key, v) => (string key, ofValue v)
termination_by structural f => f

def ofFields : List (String × Value) → List (Buffer × Buffer)
  | [] => []
  | f :: fs => ofField f :: ofFields fs
termination_by structural fs => fs

end

end Buffer

/-- The fault of an array of values that is longer than the record it should be. -/
def surplusValues (_ total : Nat) : Option Fault :=
  some (.mismatch (.invalidLength total "fewer elements in array"))

instance : Source Value where
  text expected
    | .string s => .ok s
    | v => refuse (.invalidType (.ofValue v) expected)
  flag
    | .bool b => .ok b
    | v => refuse (.invalidType (.ofValue v) "a boolean")
  option
    | .null => .ok none
    | v => .ok (some v)
  items
    | .array vs => .ok ⟨vs, none⟩
    | v => refuse (.invalidType (.ofValue v) "a sequence")
  entries
    | .object fs => .ok ⟨fs.map fun f => (.ok f.1, f.2), none⟩
    | v => refuse (.invalidType (.ofValue v) "a map")
  members type _
    | .object fs => .ok (.keyed ⟨fs.map fun f => (.ok (.name f.1), f.2), none⟩)
    | .array vs => .ok (.listed ⟨vs, none⟩ surplusValues)
    | v => refuse (.invalidType (.ofValue v) type)
  tagged
    | .object fs => .ok (.keyed ⟨fs.map fun f => (.ok (.string f.1), f.2), none⟩)
    | .array vs => .ok (.listed ⟨vs, none⟩)
    | v => .ok (.scalar (.ofValue v))
  choice
    | .string s => .ok (.name s)
    | v => refuse (.invalidType (.ofValue v) "variant identifier")
  value := .ok
  buffer v := .ok (.ofValue v)
  skip _ := .ok ()

end AspectForms.Document
