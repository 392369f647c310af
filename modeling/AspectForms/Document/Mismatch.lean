import AspectForms.Json.Printer
import AspectForms.Text.Printable
import AspectForms.Text.Split

/-!
Why a well-formed document does not say what is wanted of it, and how that is worded.
-/

namespace AspectForms.Document

/-- The kind of a node that was met. -/
inductive Found
  | null
  | bool (b : Bool)
  | int (i : Int)
  | float (f : Float)
  | string (s : String)
  | sequence
  | map

/-- Digits of a number to base sixteen. -/
def hexText (n : Nat) : String := String.ofList (Nat.toDigits 16 n)

/-- One character of a text shown between quotation marks. -/
def showChar (c : Char) : String :=
  if c = '"' then "\\\""
  else if c = '\\' then "\\\\"
  else if c = '\n' then "\\n"
  else if c = '\r' then "\\r"
  else if c = '\t' then "\\t"
  else if c.toNat = 0 then "\\0"
  else if Text.isPrintable c then String.singleton c
  else "\\u\x7b" ++ hexText c.toNat ++ "\x7d"

/-- A text shown between quotation marks. -/
def showText (s : String) : String :=
  "\"" ++ String.join (s.toList.map showChar) ++ "\""

/-- The description of a node. -/
def Found.words : Found → String
  | null => "null"
  | bool b => "boolean `" ++ toString b ++ "`"
  | int i => "integer `" ++ toString i ++ "`"
  | float f => "floating point `" ++ Json.floatText f ++ "`"
  | string s => "string " ++ showText s
  | sequence => "sequence"
  | map => "map"

/-- What a document lacks or has instead of what is wanted. -/
inductive Mismatch
  | invalidType (found : Found) (expected : String)
  | invalidValue (found : Found) (expected : String)
  | invalidLength (length : Nat) (expected : String)
  | unknownVariant (name : String) (variants : List String)
  | missingField (name : String)
  | duplicateField (name : String)
  /-- None of the alternatives of `type` fits. -/
  | noAlternative (type : String)

/-- A list of words of which one is expected. -/
def oneOf : List String → String
  | [] => "nothing"
  | [a] => "`" ++ a ++ "`"
  | [a, b] => "`" ++ a ++ "` or `" ++ b ++ "`"
  | names => "one of " ++ Text.join ", " (names.map fun n => "`" ++ n ++ "`")

def Mismatch.message : Mismatch → String
  | invalidType found expected => "invalid type: " ++ found.words ++ ", expected " ++ expected
  | invalidValue found expected => "invalid value: " ++ found.words ++ ", expected " ++ expected
  | invalidLength length expected =>
    "invalid length " ++ toString length ++ ", expected " ++ expected
  | unknownVariant name variants =>
    "unknown variant `" ++ name ++ "`, expected " ++ oneOf variants
  | missingField name => "missing field `" ++ name ++ "`"
  | duplicateField name => "duplicate field `" ++ name ++ "`"
  | noAlternative type => "data did not match any variant of untagged enum " ++ type

/-- The first thing that goes wrong while a document is read. -/
inductive Fault
  /-- The text breaks the rules of its notation. -/
  | malformed
  /-- The text is well formed and does not say what is wanted. -/
  | mismatch (m : Mismatch)

/-- Reading stops at the first fault. -/
abbrev Result := Except Fault

/-- Stop at a mismatch. -/
def refuse {α : Type} (m : Mismatch) : Result α := .error (.mismatch m)

end AspectForms.Document
