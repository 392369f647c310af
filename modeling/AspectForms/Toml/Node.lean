/-!
The contents of a TOML document, and the rules by which its statements add up to one table.

A table is defined once.  It may exist before, because the header of a table inside it was met first; and a
table that dotted keys make grows by further dotted keys, as long as its own section lasts.
-/

namespace AspectForms.Toml

/-- How a table came to exist. -/
inductive Origin
  /-- A header of a table inside it was met. -/
  | passed
  /-- A dotted key leads through it. -/
  | dotted
  /-- It has a header of its own. -/
  | headed
  /-- It is written between braces. -/
  | inline
deriving DecidableEq, Repr

inductive Node
  | string (s : String)
  | int (i : Int)
  /-- A double; `none` if it is too large for one. -/
  | float (f : Option Float)
  | bool (b : Bool)
  /-- A date, a time or both. -/
  | moment
  | array (items : List Node)
  /-- The tables of one repeated header. -/
  | tables (items : List Node)
  | table (origin : Origin) (entries : List (String × Node))
deriving Inhabited

namespace Node

/-- Put a value under a key. -/
def setEntry (key : String) (v : Node) : List (String × Node) → List (String × Node)
  | [] => [(key, v)]
  | e :: es => if e.1 = key then (key, v) :: es else e :: setEntry key v es

/-- Whether the table may be entered; a dotted key does not enter a table with a header. -/
def mayEnter (dotted : Bool) : Origin → Bool
  | .inline => false
  | .headed => !dotted
  | _ => true

/-- Change the table at the end of a path, by which missing tables are made.  A repeated header stands for
its last table. -/
def descend (dotted : Bool) (change : Node → Option Node) : List String → Node → Option Node
  | [], t => change t
  | key :: path, table origin entries => do
    let child ←
      match entries.lookup key with
      | none => descend dotted change path (table (if dotted then .dotted else .passed) [])
      | some (table o es) =>
        if mayEnter dotted o then descend dotted change path (table o es) else none
      | some (tables ts) =>
        match ts.reverse with
        | last :: before =>
          (descend dotted change path last).map fun t => tables (before.reverse ++ [t])
        | [] => none
      | some _ => none
    return table origin (setEntry key child entries)
  | _ :: _, _ => none

/-- Put a new value under a key.  Only dotted keys add to the tables that dotted keys make. -/
def put (isDotted : Bool) (key : String) (v : Node) : Node → Option Node
  | table origin entries =>
    if (entries.lookup key).isSome || (origin = .dotted) != isDotted then none
    else some (table origin (entries ++ [(key, v)]))
  | _ => none

/-- Define the table of a header. -/
def define (key : String) : Node → Option Node
  | table origin entries =>
    match entries.lookup key with
    | none => some (table origin (entries ++ [(key, table .headed [])]))
    | some (table .passed es) => some (table origin (setEntry key (table .headed es) entries))
    | some _ => none
  | _ => none

/-- Add a table to those of a repeated header. -/
def addTable (key : String) : Node → Option Node
  | table origin entries =>
    match entries.lookup key with
    | none => some (table origin (entries ++ [(key, tables [table .headed []])]))
    | some (tables ts) => some (table origin (setEntry key (tables (ts ++ [table .headed []])) entries))
    | some _ => none
  | _ => none

def splitPath (path : List String) : List String × String := (path.dropLast, path.getLastD "")

/-- Put a value at a dotted key. -/
def assign (path : List String) (v : Node) : Node → Option Node :=
  let (before, key) := splitPath path
  descend (!before.isEmpty) (put (!before.isEmpty) key v) before

end Node

inductive Statement
  | header (path : List String)
  | repeatedHeader (path : List String)
  | assignment (path : List String) (v : Node)

/-- A document up to some statement. -/
structure Progress where
  root : Node := .table .headed []
  /-- The path of the last header. -/
  current : List String := []

/-- The document after one more statement. -/
def Progress.add (p : Progress) : Statement → Option Progress
  | .header path => do
    let (before, key) := Node.splitPath path
    return ⟨← p.root.descend false (Node.define key) before, path⟩
  | .repeatedHeader path => do
    let (before, key) := Node.splitPath path
    return ⟨← p.root.descend false (Node.addTable key) before, path⟩
  | .assignment path v => do
    return { p with root := ← p.root.descend false (Node.assign path v) p.current }

/-- The table that statements add up to. -/
def Node.ofStatements? (statements : List Statement) : Option Node :=
  (statements.foldlM Progress.add {}).map (·.root)

end AspectForms.Toml
