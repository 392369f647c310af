import AspectForms.Field.Basic
import AspectForms.Text.Words

/-!
Names and types in generated components, all derived from field names.
-/

namespace AspectForms

/-- The class of the component for a path of field names. -/
def className (segments : List String) : String :=
  String.join (segments.map Text.upperCamelCase) ++ "Component"

/-- A path of field names as one hyphenated word. -/
def dashedPath (segments : List String) : String :=
  Text.join "-" (segments.map Text.kebabCase)

/-- The element name of the component for a path of field names. -/
def selector (segments : List String) : String :=
  "app-" ++ dashedPath segments

/-- The label of a field, with its unit. -/
def Field.label (f : Field) : String :=
  match f.unit? with
  | some unit => Text.titleCase f.name ++ " (" ++ unit ++ ")"
  | none => Text.titleCase f.name

/-- The expression that reads the value at a path below `root`; only the first step cannot fail. -/
def accessor (root : String) : List String → String
  | [] => root
  | s :: ss => root ++ "." ++ s ++ String.join (ss.map ("?." ++ ·))

/-- The way from a directory `depth` levels down back up. -/
def upLevels : Nat → String
  | 0 => "./"
  | depth => String.join (List.replicate depth "../")

/-- The type of an enumeration: its literals, if all its values are texts or numbers. -/
def enumerationType (values : List Value) : String :=
  if values.isEmpty || !values.all Value.isLiteral then "unknown"
  else Text.join " | " (values.map Json.text)

/-- The type with the given members; without any it is open. -/
def recordType (members : List String) : String :=
  if members.isEmpty then "Record<string, unknown>"
  else "\x7b " ++ Text.join "; " members ++ " \x7d"

mutual

def Field.valueType : Field → String
  | ⟨_, _, kind, _, _, values, _, children, _, _, _, _⟩ =>
    match kind with
    | .boolean => "boolean"
    | .number => "number"
    | .list => "unknown[]"
    | .enumeration => enumerationType (values.getD [])
    | .complex | .either => recordType (memberTypes? children)
    | .structured | .text | .textArea | .date | .dateTime | .duration | .time | .datePartial
    | .fallback => "string"
termination_by structural f => f

def memberTypes? : Option (List Field) → List String
  | none => []
  | some fs => memberTypes fs
termination_by structural fs => fs

/-- One member per field; those without a required value are marked optional. -/
def memberTypes : List Field → List String
  | [] => []
  | f :: fs =>
    (f.name ++ (if f.isRequired then "" else "?") ++ ": " ++ f.valueType) :: memberTypes fs
termination_by structural fs => fs

end

def objectType (fields : List Field) : String :=
  recordType (memberTypes fields)

end AspectForms
