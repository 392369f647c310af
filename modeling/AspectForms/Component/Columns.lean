import AspectForms.Component.Naming
import AspectForms.Config

/-!
Columns of tables and lines of cards.  A complex field gives way to those of its children that are
shown, at any depth; every other field, and a complex one that shows none, is one column.
-/

namespace AspectForms

/-- One column of a table or line of a card. -/
structure Column where
  /-- Property names from the root down. -/
  path : List String
  kind : FieldKind
  header : String
deriving DecidableEq, Repr, Inhabited

namespace Column

/-- The name of the column. -/
def key (c : Column) : String := Text.join "." c.path

def expression (c : Column) : String :=
  let value := accessor "row" c.path
  match c.kind with
  | .date => value ++ " | date"
  | .dateTime => value ++ " | date: 'medium'"
  | .boolean => value ++ " ? 'Yes' : 'No'"
  | .list => value ++ "?.join(', ')"
  | .complex | .either => value ++ " | json"
  | _ => value

def cell (c : Column) : String :=
  "\x7b\x7b " ++ c.expression ++ " \x7d\x7d"

end Column

def isShown (names? : Option (List String)) (name : String) : Bool :=
  match names? with
  | some names => names.contains name
  | none => true

/-- The column of a field on its own, below the fields `above`. -/
def Field.column (f : Field) (above : List String) : Column :=
  ⟨above ++ [f.name], f.kind, Text.join " " (above.map Text.titleCase ++ [f.label])⟩

/-- Whether a field gives way to the children it shows. -/
def Field.expands (config : Config) (f : Field) : Bool :=
  f.kind == .complex && f.children.any fun c => isShown (config.shownOf? f.name) c.name

section Columns

variable (config : Config)

mutual

/-- The columns of a field below the fields `above`. -/
def fieldColumns (above : List String) : Field → List Column
  | ⟨name, dashed, kind, validators, ex, values, unit, children, format, placeholder, hint, rule⟩ =>
    let f : Field :=
      ⟨name, dashed, kind, validators, ex, values, unit, children, format, placeholder, hint, rule⟩
    if f.expands config then childColumns? (above ++ [name]) (config.shownOf? name) children
    else [f.column above]
termination_by structural f => f

/-- The columns of children that may be missing. -/
def childColumns? (above : List String) (names? : Option (List String)) :
    Option (List Field) → List Column
  | none => []
  | some fs => childColumns above names? fs
termination_by structural fs => fs

/-- The columns of the shown ones among some fields. -/
def childColumns (above : List String) (names? : Option (List String)) : List Field → List Column
  | [] => []
  | f :: fs =>
    if isShown names? f.name then fieldColumns above f ++ childColumns above names? fs
    else childColumns above names? fs
termination_by structural fs => fs

end

end Columns

/-- The columns of a forest, in declaration order. -/
def resolveColumns (config : Config) (fields : List Field) : List Column :=
  childColumns config [] none fields

end AspectForms
