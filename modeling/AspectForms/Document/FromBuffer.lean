import AspectForms.Document.Source

/-!
Reading from memory.  Nothing can be malformed any more, and numbers are no texts.
-/

namespace AspectForms.Document

namespace Buffer

/-- The fault of an array that is longer than the record it should be. -/
def surplus (taken total : Nat) : Option Fault :=
  some <| .mismatch <| .invalidLength total <|
    toString taken ++ (if taken = 1 then " element" else " elements") ++ " in sequence"

def fieldKey : Buffer → Result Key
  | string s => .ok (.name s)
  | int i =>
    if 0 ≤ i then .ok (.index i.toNat) else refuse (.invalidType (.int i) "field identifier")
  | b => refuse (.invalidType b.found "field identifier")

instance : Source Buffer where
  text expected
    | string s => .ok s
    | b => refuse (.invalidType b.found expected)
  flag
    | bool b => .ok b
    | b => refuse (.invalidType b.found "a boolean")
  option
    | null => .ok none
    | b => .ok (some b)
  items
    | array items => .ok ⟨items, none⟩
    | b => refuse (.invalidType b.found "a sequence")
  entries
    | object es =>
      .ok ⟨es.map fun e =>
        (match e.1 with
          | string s => .ok s
          | k => refuse (.invalidType k.found "a string"), e.2), none⟩
    | b => refuse (.invalidType b.found "a map")
  members type _
    | object es => .ok (.keyed ⟨es.map fun e => (e.1.fieldKey, e.2), none⟩)
    | array items => .ok (.listed ⟨items, none⟩ surplus)
    | b => refuse (.invalidType b.found type)
  tagged
    | object es => .ok (.keyed ⟨es.map fun e => (.ok e.1, e.2), none⟩)
    | array items => .ok (.listed ⟨items, none⟩)
    | b => .ok (.scalar b.found)
  choice
    | string s => .ok (.name s)
    | int i =>
      if 0 ≤ i then .ok (.index i.toNat)
      else refuse (.invalidType (.int i) "variant identifier")
    | b => refuse (.invalidType b.found "variant identifier")
  value := Buffer.value
  buffer := .ok
  skip _ := .ok ()

/-- A natural number of at most `limit`; `type` names its width. -/
def natural (type : String) (limit : Nat) : Buffer → Result Nat
  | int i =>
    if 0 ≤ i ∧ i ≤ limit then .ok i.toNat else refuse (.invalidValue (.int i) type)
  | b => refuse (.invalidType b.found type)

/-- A word that stands for one of several values, alone or as the only key over nothing. -/
def word {α : Type} (alternatives : List (List String × α)) (expected : List String) :
    Buffer → Result α
  | string s => chooseAlternative alternatives expected (.name s)
  | object [(key, content)] => do
    let a ← chooseAlternative alternatives expected (← Source.choice key)
    match content with
    | null => return a
    | object [] => return a
    | b => refuse (.invalidType b.found "unit")
  | object _ => refuse (.invalidValue .map "map with a single key")
  | b => refuse (.invalidType b.found "string or map")

end Buffer

end AspectForms.Document
