import AspectForms.Model.Identifier

/-!
The kinds of fields and how a characteristic gets one.  Structure decides before the data type does: a
list of decimals is a list.
-/

namespace AspectForms

inductive FieldKind
  | either
  | list
  | structured
  | complex
  | enumeration
  | boolean
  | text
  | textArea
  | number
  | date
  | dateTime
  | duration
  | time
  | datePartial
  /-- A plain text field, for want of anything better. -/
  | fallback
deriving DecidableEq, Repr, Inhabited

namespace FieldKind

/-- The kinds in the order in which they are tried; the fallback is not tried. -/
def candidates : List FieldKind :=
  [either, list, structured, complex, enumeration, boolean, text, textArea, number, date, dateTime,
    duration, time, datePartial]

def word : FieldKind → String
  | either => "either"
  | list => "list"
  | structured => "structuredValue"
  | complex => "complex"
  | enumeration => "enumeration"
  | boolean => "boolean"
  | text => "text"
  | textArea => "textArea"
  | number => "number"
  | date => "date"
  | dateTime => "dateTime"
  | duration => "duration"
  | time => "time"
  | datePartial => "datePartial"
  | fallback => "default"

/-- The word for a kind in running text. -/
def display : FieldKind → String
  | structured => "structured-value"
  | textArea => "text-area"
  | dateTime => "date-time"
  | datePartial => "date-partial"
  | k => k.word

/-- The short names of the scalar types that a kind of field edits. -/
def typeNames : FieldKind → List String
  | boolean => ["boolean"]
  | text => ["string", "anyURI", "hexBinary", "curie", "base64Binary"]
  | textArea => ["langString"]
  | number =>
    ["byte", "short", "int", "integer", "long", "decimal", "float", "double", "unsignedByte",
      "unsignedShort", "unsignedInt", "unsignedLong", "positiveInteger", "nonPositiveInteger",
      "negativeInteger", "nonNegativeInteger"]
  | date => ["date"]
  | dateTime => ["dateTime", "dateTimeStamp"]
  | duration => ["duration", "dayTimeDuration", "yearMonthDuration"]
  | time => ["time"]
  | datePartial => ["gDay", "gMonth", "gYear", "gMonthDay", "gYearMonth"]
  | _ => []

/-- The kinds that are told by the data type alone. -/
def typed : List FieldKind :=
  [boolean, text, textArea, number, date, dateTime, duration, time, datePartial]

/-- Whether a kind of field can show the values of a characteristic. -/
def accepts (kind : FieldKind) (c : Characteristic DataType) : Bool :=
  match kind, c with
  | either, .either .. => true
  | either, _ => false
  | list, .collection .. => true
  | list, _ => false
  | structured, .structured .. => true
  | structured, _ => false
  | complex, .singleEntity _ t => t.isEntity
  | complex, .scalar _ (some t) _ => t.isEntity
  | complex, _ => false
  | enumeration, .enumeration .. => true
  | enumeration, _ => false
  | fallback, _ => true
  | kind, c =>
    match c.dataType? with
    | some t => kind.typeNames.contains t.short
    | none => false

/-- The first candidate that accepts a characteristic. -/
def select (c : Characteristic DataType) : FieldKind :=
  (candidates.find? (·.accepts c)).getD fallback

/-- Whether fields of this kind hold fields of their own. -/
def hasChildren : FieldKind → Bool
  | complex => true
  | either => true
  | structured => true
  | _ => false

end FieldKind

end AspectForms
