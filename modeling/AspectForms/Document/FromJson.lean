import AspectForms.Document.Source
import AspectForms.Json.Tree

/-!
Reading from a JSON text.
-/

namespace AspectForms.Json

open AspectForms.Document

/-- What a mismatch says about this node; a node without a value cannot be described. -/
def Tree.found : Tree → Result Found
  | .null => .ok .null
  | .bool b => .ok (.bool b)
  | .number (.int i) => .ok (.int i)
  | .number (.float f) => .ok (.float f)
  | .string s => .ok (.string s)
  | .unusable => .error .malformed
  | .array .. => .ok .sequence
  | .object .. => .ok .map
  | .broken => .error .malformed

/-- Stop because the node is not what was expected. -/
def Tree.refuse {α : Type} (expected : String) (t : Tree) : Result α := do
  Document.refuse (.invalidType (← t.found) expected)

/-- The fault that follows the contents of a bracket. -/
def bracketStop (closed : Bool) : Option Fault :=
  if closed then none else some .malformed

/-- Refuse to enter a bracket beyond the nesting limit. -/
def enter (deep : Bool) : Result Unit :=
  if deep then .error .malformed else .ok ()

/-- A key, unless it is unusable. -/
def keyText (key : Option String) : Result String :=
  match key with
  | some s => .ok s
  | none => .error .malformed

mutual

/-- A node in memory. -/
def Tree.buffer : Tree → Result Buffer
  | .null => return .null
  | .bool b => return .bool b
  | .number (.int i) => return .int i
  | .number (.float f) => return .float f
  | .string s => return .string s
  | .unusable => .error .malformed
  | .array deep closed items => do
    enter deep
    let items ← bufferItems items
    stopAt (bracketStop closed)
    return .array items
  | .object deep closed entries => do
    enter deep
    let entries ← bufferEntries entries
    stopAt (bracketStop closed)
    return .object entries
  | .broken => .error .malformed
termination_by structural t => t

def bufferItems : List Tree → Result (List Buffer)
  | [] => return []
  | t :: ts => do
    let b ← t.buffer
    return b :: (← bufferItems ts)
termination_by structural ts => ts

def bufferEntry : Option String × Tree → Result (Buffer × Buffer)
  | (key, t) => do
    let key ← keyText key
    return (.string key, ← t.buffer)
termination_by structural e => e

def bufferEntries : List (Option String × Tree) → Result (List (Buffer × Buffer))
  | [] => return []
  | e :: es => do
    let b ← bufferEntry e
    return b :: (← bufferEntries es)
termination_by structural es => es

end

instance : Source Tree where
  text expected
    | .string s => .ok s
    | t => t.refuse expected
  flag
    | .bool b => .ok b
    | t => t.refuse "a boolean"
  option
    | .null => .ok none
    | t => .ok (some t)
  items
    | .array deep closed items => do
      enter deep
      return ⟨items, bracketStop closed⟩
    | t => t.refuse "a sequence"
  entries
    | .object deep closed es => do
      enter deep
      return ⟨es.map fun e => (keyText e.1, e.2), bracketStop closed⟩
    | t => t.refuse "a map"
  members type _
    | .object deep closed es => do
      enter deep
      return .keyed ⟨es.map fun e => (.name <$> keyText e.1, e.2), bracketStop closed⟩
    | .array deep closed items => do
      enter deep
      return .listed ⟨items, bracketStop closed⟩ fun _ _ => some .malformed
    | t => t.refuse type
  tagged
    | .object deep closed es => do
      enter deep
      return .keyed ⟨es.map fun e => (.string <$> keyText e.1, e.2), bracketStop closed⟩
    | .array deep closed items => do
      enter deep
      return .listed ⟨items, bracketStop closed⟩
    | t => return .scalar (← t.found)
  choice
    | .string s => .ok (.name s)
    | t => t.refuse "variant identifier"
  value t :=
    match t.value? with
    | some v => .ok v
    | none => .error .malformed
  buffer := Tree.buffer
  skip t := if t.skippable then .ok () else .error .malformed

/-- Read a whole text, after which only blanks may follow. -/
def read {α : Type} (reader : Tree → Result α) (s : String) : Result α := do
  let (tree, complete) := readText s
  let a ← reader tree
  if complete then return a else .error .malformed

end AspectForms.Json
