import AspectForms.Decimal.Shortest
import AspectForms.Json.Quoted
import AspectForms.Json.Value

/-!
The text of a value: on one line without blanks, or indented by two spaces a level.
-/

namespace AspectForms.Json

/-- Doubles are positional from `1e-5` to below `1e16`, whole ones with `.0`; other exponents carry
their sign. -/
def floatStyle : Decimal.Style := ⟨-5, 16, "+", ".0"⟩

/-- The text of a double; what is not finite has none of its own. -/
def floatText (f : Float) : String :=
  if f.isFinite then Decimal.render floatStyle f else "null"

def numberText : Number → String
  | .int i => toString i
  | .float f => floatText f

def quoteText (s : String) : String :=
  String.ofList (quote s.toList)

mutual

/-- The text of a value on one line. -/
def compact : Value → List Char
  | .null => "null".toList
  | .bool b => (if b then "true" else "false").toList
  | .number n => (numberText n).toList
  | .string s => quote s.toList
  | .array [] => ['[', ']']
  | .array (v :: vs) => '[' :: compact v ++ compactItems vs
  | .object [] => ['\x7b', '\x7d']
  | .object (f :: fs) => '\x7b' :: compactField f ++ compactFields fs
termination_by structural v => v

/-- The remaining items of an array, and its end. -/
def compactItems : List Value → List Char
  | [] => [']']
  | v :: vs => ',' :: compact v ++ compactItems vs
termination_by structural vs => vs

def compactField : String × Value → List Char
  | (key, v) => quote key.toList ++ ':' :: compact v
termination_by structural f => f

/-- The remaining fields of an object, and its end. -/
def compactFields : List (String × Value) → List Char
  | [] => ['\x7d']
  | f :: fs => ',' :: compactField f ++ compactFields fs
termination_by structural fs => fs

end

def text (v : Value) : String :=
  String.ofList (compact v)

/-- A line break and the indentation of a level. -/
def newLine (level : Nat) : List Char :=
  '\n' :: List.replicate (2 * level) ' '

mutual

/-- The text of a value over several lines, its own first line not indented. -/
def indented (level : Nat) : Value → List Char
  | .null => "null".toList
  | .bool b => (if b then "true" else "false").toList
  | .number n => (numberText n).toList
  | .string s => quote s.toList
  | .array [] => ['[', ']']
  | .array (v :: vs) =>
    '[' :: newLine (level + 1) ++ indented (level + 1) v ++ indentedItems level vs
  | .object [] => ['\x7b', '\x7d']
  | .object (f :: fs) =>
    '\x7b' :: newLine (level + 1) ++ indentedField level f ++ indentedFields level fs
termination_by structural v => v

/-- The remaining items of an array, and its end. -/
def indentedItems (level : Nat) : List Value → List Char
  | [] => newLine level ++ [']']
  | v :: vs => ',' :: newLine (level + 1) ++ indented (level + 1) v ++ indentedItems level vs
termination_by structural vs => vs

def indentedField (level : Nat) : String × Value → List Char
  | (key, v) => quote key.toList ++ ':' :: ' ' :: indented (level + 1) v
termination_by structural f => f

/-- The remaining fields of an object, and its end. -/
def indentedFields (level : Nat) : List (String × Value) → List Char
  | [] => newLine level ++ ['\x7d']
  | f :: fs => ',' :: newLine (level + 1) ++ indentedField level f ++ indentedFields level fs
termination_by structural fs => fs

end

/-- The text of a value over several lines. -/
def prettyText (v : Value) : String :=
  String.ofList (indented 0 v)

end AspectForms.Json
