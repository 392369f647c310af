import AspectForms.Field.Kind
import AspectForms.Json.Printer

/-!
Validators: the expressions that a generated control checks its value with.  A constraint that demands
nothing yields none.
-/

namespace AspectForms

structure Validator where
  name : String
  /-- The expression that makes the validator. -/
  definition : String
  /-- Whether the control itself is checked, and not each of its children or items. -/
  direct : Bool := true
deriving DecidableEq, Repr, Inhabited

namespace Validator

/-- The expression that demands a value. -/
def requiredDefinition : String := "Validators.required"

def required : Validator := ⟨"required", requiredDefinition, true⟩

/-- Whether a validator demands a value.  Its name does not matter, since documents choose names. -/
def isRequired (v : Validator) : Bool := v.definition == requiredDefinition

def sharedClass : String := "FormValidators."

def call (factory : String) (arguments : List String) : String :=
  sharedClass ++ factory ++ "(" ++ Text.join ", " arguments ++ ")"

end Validator

/-- The pattern that a date is shown with. -/
def dateFormat? : String → Option String
  | "date" => some "YYYY-MM-DD"
  | "gDay" => some "---DD"
  | "gMonth" => some "--MM"
  | "gYear" => some "YYYY"
  | "gMonthDay" => some "--MM-DD"
  | "gYearMonth" => some "YYYY-MM"
  | "dateTime" => some "YYYY-MM-DDTHH:mm:ss"
  | "dateTimeStamp" => some "YYYY-MM-DDTHH:mm:ss.SSSZ"
  | _ => none

/-- How to enter a partial date. -/
def partialDateHint? : String → Option String
  | "gDay" => some "Day of the month, e.g. ---15"
  | "gMonth" => some "Month of the year, e.g. --04"
  | "gYear" => some "Year, e.g. 2024"
  | "gMonthDay" => some "Month and day, e.g. --04-15"
  | "gYearMonth" => some "Year and month, e.g. 2024-04"
  | _ => none

def durationPlaceholder? : String → Option String
  | "duration" => some "P1Y2M3DT4H5M6S"
  | "dayTimeDuration" => some "P1DT2H3M4S"
  | "yearMonthDuration" => some "P1Y2M"
  | _ => none

/-- The pattern that a time of day is entered with. -/
def timePlaceholder : String := "HH:mm:ss"

/-- The validator for the form of a duration or a time of day. -/
def temporalValidator? : String → Option Validator
  | "duration" => some ⟨"duration", Validator.call "durationValidator" [], true⟩
  | "dayTimeDuration" =>
    some ⟨"dayTimeDuration", Validator.call "dayTimeDurationValidator" [], true⟩
  | "yearMonthDuration" =>
    some ⟨"yearMonthDuration", Validator.call "yearMonthDurationValidator" [], true⟩
  | "time" => some ⟨"time", Validator.call "timeValidator" [], true⟩
  | _ => none

/-- The character sets that an encoding constraint may ask for. -/
def supportedEncodings : List String :=
  ["US-ASCII", "ISO-8859-1", "UTF-8", "UTF-16", "UTF-16BE", "UTF-16LE"]

/-- The character set that an encoding names after its last `#`, whatever the case of ASCII letters. -/
def supportedEncoding? (value : String) : Option String :=
  let token := (Text.afterLast (· == '#') value.toList).map Char.toLower
  supportedEncodings.find? fun e => e.toList.map Char.toLower == token

/-- A bound as an argument; a missing one and `null` are undefined. -/
def valueArgument : Option Value → String
  | none => "undefined"
  | some .null => "undefined"
  | some v => Json.text v

def lengthArgument : Option Nat → String
  | none => "undefined"
  | some n => toString n

def isGiven : Option Value → Bool
  | none => false
  | some v => !v.isNull

/-- Whether the constraint of a field of this kind is passed on to its children or items. -/
def FieldKind.liftsRange : FieldKind → Bool
  | .list => true
  | .complex => true
  | _ => false

/-- The validators of a constraint on a field of kind `owner`, at most one. -/
def Constraint.validators (c : Constraint) (owner : FieldKind) : List Validator :=
  match c with
  | .range name min max lower upper =>
    if isGiven min || isGiven max then
      [⟨name.getD "range",
        Validator.call "rangeValidator"
          [valueArgument min, valueArgument max, "'" ++ lower.word ++ "'",
            "'" ++ upper.word ++ "'"],
        !owner.liftsRange⟩]
    else []
  | .length name min max =>
    if min.isSome || max.isSome then
      [⟨name.getD "length",
        Validator.call "lengthValidator" [lengthArgument min, lengthArgument max], true⟩]
    else []
  | .pattern name expression =>
    if expression.isEmpty then []
    else
      [⟨name.getD "pattern", Validator.call "patternValidator" [Json.quoteText expression], true⟩]
  | .encoding name value =>
    match supportedEncoding? value with
    | some e =>
      [⟨name.getD "encoding", Validator.call "encodingValidator" ["'" ++ e ++ "'"], true⟩]
    | none => []
  | .fixedPoint name integer scale =>
    [⟨name.getD "fixedPoint",
      Validator.call "fixedPointValidator" [toString integer, toString scale], true⟩]

end AspectForms
