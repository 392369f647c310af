/-!
Free values: what a document may hold where its format prescribes nothing.
-/

namespace AspectForms

/-- Integers stay integers; every other number is a double. -/
inductive Number
  | int (i : Int)
  | float (f : Float)
deriving Inhabited, Repr

/-- A JSON value.  Objects keep the order in which their keys first appeared. -/
inductive Value
  | null
  | bool (b : Bool)
  | number (n : Number)
  | string (s : String)
  | array (items : List Value)
  | object (fields : List (String × Value))
deriving Inhabited, Repr

namespace Value

def isNull : Value → Bool
  | null => true
  | _ => false

def isLiteral : Value → Bool
  | string _ => true
  | number _ => true
  | _ => false

/-- Replace the value at `key`, keeping its place, or add it at the end. -/
def insertField (key : String) (v : Value) : List (String × Value) → List (String × Value)
  | [] => [(key, v)]
  | f :: fs => if f.1 = key then (key, v) :: fs else f :: insertField key v fs

/-- An object from entries in reading order: of a repeated key the last value counts. -/
def ofEntries (entries : List (String × Value)) : Value :=
  object (entries.foldl (fun fs e => insertField e.1 e.2 fs) [])

def field? (key : String) : Value → Option Value
  | object fields => fields.lookup key
  | _ => none

end Value

end AspectForms
