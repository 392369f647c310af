import AspectForms.Document.Source
import AspectForms.Toml.Reader

/-!
Reading from a TOML document.  There is no way to write nothing; numbers are refused when they are met if
they do not fit.
-/

namespace AspectForms.Toml

open AspectForms.Document

/-- What a mismatch says about this node. -/
def Node.found : Node → Found
  | .string s => .string s
  | .int i => .int i
  | .float f => .float (f.getD 0.0)
  | .bool b => .bool b
  | .moment => .map
  | .array _ => .sequence
  | .tables _ => .sequence
  | .table .. => .map

/-- Whether a whole number fits 128 bits, with or without a sign. -/
def isWide (i : Int) : Bool := !(-(Nat.pow 2 127 : Int) ≤ i && i < Nat.pow 2 128)

mutual

/-- Whether all numbers of a node fit. -/
def Node.fits : Node → Bool
  | .int i => !isWide i
  | .float f => f.isSome
  | .array items => itemsFit items
  | .tables items => itemsFit items
  | .table _ entries => entriesFit entries
  | _ => true
termination_by structural n => n

def itemsFit : List Node → Bool
  | [] => true
  | n :: ns => n.fits && itemsFit ns
termination_by structural ns => ns

def entryFits : String × Node → Bool
  | (_, n) => n.fits
termination_by structural e => e

def entriesFit : List (String × Node) → Bool
  | [] => true
  | e :: es => entryFits e && entriesFit es
termination_by structural es => es

end

mutual

def Node.buffer : Node → Result Buffer
  | .string s => return .string s
  | .int i => if -(Nat.pow 2 63 : Int) ≤ i ∧ i < Nat.pow 2 64 then return .int i else .error .malformed
  | .float (some f) => return .float f
  | .float none => .error .malformed
  | .bool b => return .bool b
  | .moment => .error .malformed
  | .array items => return .array (← bufferItems items)
  | .tables items => return .array (← bufferItems items)
  | .table _ entries => return .object (← bufferEntries entries)
termination_by structural n => n

def bufferItems : List Node → Result (List Buffer)
  | [] => return []
  | n :: ns => do
    let b ← n.buffer
    return b :: (← bufferItems ns)
termination_by structural ns => ns

def bufferEntry : String × Node → Result (Buffer × Buffer)
  | (key, n) => return (.string key, ← n.buffer)
termination_by structural e => e

def bufferEntries : List (String × Node) → Result (List (Buffer × Buffer))
  | [] => return []
  | e :: es => do
    let b ← bufferEntry e
    return b :: (← bufferEntries es)
termination_by structural es => es

end

/-- Stop because the node is not what was expected. -/
def Node.refuse {α : Type} (expected : String) (n : Node) : Result α :=
  Document.refuse (.invalidType n.found expected)

/-- The items of an array, written as values or as repeated tables. -/
def Node.items? : Node → Option (List Node)
  | .array items => some items
  | .tables items => some items
  | _ => none

/-- The entries of a table.  Those of a moment are hidden. -/
def Node.entries? : Node → Option (List (String × Node))
  | .table _ entries => some entries
  | .moment => some []
  | _ => none

instance : Source Node where
  text expected
    | .string s => .ok s
    | n => n.refuse expected
  flag
    | .bool b => .ok b
    | n => n.refuse "a boolean"
  option n := .ok (some n)
  items n :=
    match n.items? with
    | some items => .ok ⟨items, none⟩
    | none => n.refuse "a sequence"
  entries n :=
    match n.entries? with
    | some es => .ok ⟨es.map fun e => (.ok e.1, e.2), none⟩
    | none => n.refuse "a map"
  members type _ n :=
    match n.entries?, n.items? with
    | some es, _ => .ok (.keyed ⟨es.map fun e => (.ok (.name e.1), e.2), none⟩)
    | _, some items => .ok (.listed ⟨items, none⟩ fun _ _ => none)
    | _, _ => n.refuse type
  tagged n :=
    match n.entries?, n.items? with
    | some es, _ => .ok (.keyed ⟨es.map fun e => (.ok (.string e.1), e.2), none⟩)
    | _, some items => .ok (.listed ⟨items, none⟩)
    | _, _ => .ok (.scalar n.found)
  choice
    | .string s => .ok (.name s)
    | n => n.refuse "variant identifier"
  value n := do (← n.buffer).value
  buffer := Node.buffer
  skip n := if n.fits then .ok () else .error .malformed

def read {α : Type} (reader : Node → Result α) (text : String) : Result α :=
  match Node.ofText? text with
  | some n => reader n
  | none => .error .malformed

end AspectForms.Toml
