import AspectForms.Json.Numeral
import AspectForms.Json.Quoted

/-!
A JSON text as a tree, read as far as it goes.  A text that is broken somewhere still has a tree: the part
before the fault, with the fault as a leaf.  So a reader that walks the tree in text order meets
whichever comes first, a fault of the text or a value that it does not accept.
-/

namespace AspectForms.Json

/-- A JSON text, possibly cut off at its first fault. -/
inductive Tree
  | null
  | bool (b : Bool)
  | number (n : Number)
  | string (s : String)
  /-- Well formed, but no value: a number out of range or half a surrogate pair. -/
  | unusable
  /-- Items and whether the closing bracket was reached; `deep` if nested beyond the limit. -/
  | array (deep closed : Bool) (items : List Tree)
  /-- Entries and whether the closing brace was reached; a key may be unusable. -/
  | object (deep closed : Bool) (entries : List (Option String × Tree))
  /-- The first fault of the text. -/
  | broken
deriving Inhabited

/-- How many brackets may be open at once. -/
def nestingLimit : Nat := 127

/-- The blanks between tokens. -/
def skipBlanks : List Char → List Char
  | [] => []
  | c :: cs => if c = ' ' ∨ c = '\n' ∨ c = '\t' ∨ c = '\r' then skipBlanks cs else c :: cs

/-- What a reading step found: a tree, and the rest of the text unless it broke off. -/
structure Reading (α : Type) where
  found : α
  rest : Option (List Char)

/-- A fixed word, of which the first letter has been seen. -/
def readWord (word : List Char) (tree : Tree) (cs : List Char) : Reading Tree :=
  match word.isPrefixOf? cs with
  | some rest => ⟨tree, some rest⟩
  | none => ⟨.broken, none⟩

def readNumber (cs : List Char) : Reading Tree :=
  match readNumeral cs with
  | none => ⟨.broken, none⟩
  | some n => ⟨match n.value with | some v => .number v | none => .unusable, some n.rest⟩

/-- A string whose opening quote has been read. -/
def readString (cs : List Char) : Reading Tree :=
  match unquote none cs with
  | none => ⟨.broken, none⟩
  | some s =>
    ⟨match s.text with | some t => .string (String.ofList t) | none => .unusable, some s.rest⟩

mutual

/-- A value inside `depth` open brackets. -/
def readTree : Nat → Nat → List Char → Reading Tree
  | 0, _, _ => ⟨.broken, none⟩
  | fuel + 1, depth, text =>
    match skipBlanks text with
    | [] => ⟨.broken, none⟩
    | c :: cs =>
      if c = 'n' then readWord "ull".toList .null cs
      else if c = 't' then readWord "rue".toList (.bool true) cs
      else if c = 'f' then readWord "alse".toList (.bool false) cs
      else if c = '"' then readString cs
      else if c = '-' ∨ (digit? c).isSome then readNumber (c :: cs)
      else if c = '[' then
        let deep := nestingLimit ≤ depth
        match skipBlanks cs with
        | ']' :: rest => ⟨.array deep true [], some rest⟩
        | _ =>
          let r := readItems fuel (depth + 1) cs
          ⟨.array deep r.rest.isSome r.found, r.rest⟩
      else if c = '\x7b' then
        let deep := nestingLimit ≤ depth
        match skipBlanks cs with
        | '\x7d' :: rest => ⟨.object deep true [], some rest⟩
        | _ =>
          let r := readEntries fuel (depth + 1) cs
          ⟨.object deep r.rest.isSome r.found, r.rest⟩
      else ⟨.broken, none⟩

/-- Items of an array up to its closing bracket, at least one. -/
def readItems : Nat → Nat → List Char → Reading (List Tree)
  | 0, _, _ => ⟨[], none⟩
  | fuel + 1, depth, text =>
    let first := readTree fuel depth text
    match first.rest with
    | none => ⟨[first.found], none⟩
    | some rest =>
      match skipBlanks rest with
      | ']' :: rest => ⟨[first.found], some rest⟩
      | ',' :: rest =>
        match skipBlanks rest with
        | ']' :: _ => ⟨[first.found], none⟩
        | _ =>
          let more := readItems fuel depth rest
          ⟨first.found :: more.found, more.rest⟩
      | _ => ⟨[first.found], none⟩

/-- Entries of an object up to its closing brace, at least one. -/
def readEntries : Nat → Nat → List Char → Reading (List (Option String × Tree))
  | 0, _, _ => ⟨[], none⟩
  | fuel + 1, depth, text =>
    match skipBlanks text with
    | '"' :: cs =>
      match unquote none cs with
      | none => ⟨[], none⟩
      | some key =>
        let name := key.text.map String.ofList
        match skipBlanks key.rest with
        | ':' :: cs =>
          let first := readTree fuel depth cs
          match first.rest with
          | none => ⟨[(name, first.found)], none⟩
          | some rest =>
            match skipBlanks rest with
            | '\x7d' :: rest => ⟨[(name, first.found)], some rest⟩
            | ',' :: rest =>
              let more := readEntries fuel depth rest
              ⟨(name, first.found) :: more.found, more.rest⟩
            | _ => ⟨[(name, first.found)], none⟩
        | _ => ⟨[(name, .broken)], none⟩
    | _ => ⟨[], none⟩

end

/-- A whole text as a tree, and whether nothing but blanks follows the value. -/
def readText (s : String) : Tree × Bool :=
  let cs := s.toList
  let r := readTree (2 * cs.length + 2) 0 cs
  (r.found, match r.rest with | some rest => (skipBlanks rest).isEmpty | none => false)

mutual

/-- Whether a value can be passed over: its text is well formed, usable or not. -/
def Tree.skippable : Tree → Bool
  | .array _ closed items => closed && skippableItems items
  | .object _ closed entries => closed && skippableEntries entries
  | .broken => false
  | _ => true
termination_by structural t => t

/-- All items can be passed over. -/
def skippableItems : List Tree → Bool
  | [] => true
  | t :: ts => t.skippable && skippableItems ts
termination_by structural ts => ts

/-- One entry can be passed over. -/
def skippableEntry : Option String × Tree → Bool
  | (_, t) => t.skippable
termination_by structural e => e

/-- All entries can be passed over. -/
def skippableEntries : List (Option String × Tree) → Bool
  | [] => true
  | e :: es => skippableEntry e && skippableEntries es
termination_by structural es => es

end

mutual

/-- The free value that a tree stands for, if the text has no fault inside it. -/
def Tree.value? : Tree → Option Value
  | .null => some .null
  | .bool b => some (.bool b)
  | .number n => some (.number n)
  | .string s => some (.string s)
  | .unusable => none
  | .array deep closed items =>
    if deep || !closed then none else (treeValues? items).map .array
  | .object deep closed entries =>
    if deep || !closed then none else (treeEntries? entries).map Value.ofEntries
  | .broken => none
termination_by structural t => t

def treeValues? : List Tree → Option (List Value)
  | [] => some []
  | t :: ts => do
    let v ← t.value?
    let vs ← treeValues? ts
    return v :: vs
termination_by structural ts => ts

def treeEntry? : Option String × Tree → Option (String × Value)
  | (key, t) => do
    let v ← t.value?
    return (← key, v)
termination_by structural e => e

def treeEntries? : List (Option String × Tree) → Option (List (String × Value))
  | [] => some []
  | e :: es => do
    let f ← treeEntry? e
    let fs ← treeEntries? es
    return f :: fs
termination_by structural es => es

end

def parse? (s : String) : Option Value :=
  match readText s with
  | (t, true) => t.value?
  | (_, false) => none

end AspectForms.Json
