import AspectForms.Text.Split

/-!
Why a text is no pattern, and how that is shown: the pattern with the place marked below it.
-/

namespace AspectForms.Pattern

/-- The characters from `start` to just before `stop`. -/
structure Span where
  start : Nat
  stop : Nat
deriving DecidableEq, Repr, Inhabited

/-- What is wrong with a pattern. -/
inductive FaultKind
  | classEscapeInvalid
  | classRangeInvalid
  | classRangeLiteral
  | classUnclosed
  | decimalEmpty
  | decimalInvalid
  | escapeHexEmpty
  | escapeHexInvalid
  | escapeHexInvalidDigit
  | escapeUnexpectedEnd
  | escapeUnrecognized
  | flagDanglingNegation
  | flagDuplicate
  | flagRepeatedNegation
  | flagUnexpectedEnd
  | flagUnrecognized
  | groupNameDuplicate
  | groupNameEmpty
  | groupNameInvalid
  | groupNameUnexpectedEnd
  | groupUnclosed
  | groupUnopened
  | nestLimitExceeded (limit : Nat)
  | repetitionCountInvalid
  | repetitionCountEmpty
  | repetitionCountUnclosed
  | repetitionMissing
  | wordBoundaryUnclosed
  | wordBoundaryUnrecognized
  | wordBoundaryUnexpectedEnd
  | propertyClassInvalid
  /-- What an engine without backtracking cannot offer. -/
  | unsupportedBackreference
  | unsupportedLookAround
  | unicodeNotAllowed
  | invalidText
  | propertyNotFound
  | propertyValueNotFound
deriving DecidableEq, Repr

def FaultKind.message : FaultKind → String
  | classEscapeInvalid => "invalid escape sequence found in character class"
  | classRangeInvalid => "invalid character class range, the start must be <= the end"
  | classRangeLiteral => "invalid range boundary, must be a literal"
  | classUnclosed => "unclosed character class"
  | decimalEmpty => "decimal literal empty"
  | decimalInvalid => "decimal literal invalid"
  | escapeHexEmpty => "hexadecimal literal empty"
  | escapeHexInvalid => "hexadecimal literal is not a Unicode scalar value"
  | escapeHexInvalidDigit => "invalid hexadecimal digit"
  | escapeUnexpectedEnd => "incomplete escape sequence, reached end of pattern prematurely"
  | escapeUnrecognized => "unrecognized escape sequence"
  | flagDanglingNegation => "dangling flag negation operator"
  | flagDuplicate => "duplicate flag"
  | flagRepeatedNegation => "flag negation operator repeated"
  | flagUnexpectedEnd => "expected flag but got end of regex"
  | flagUnrecognized => "unrecognized flag"
  | groupNameDuplicate => "duplicate capture group name"
  | groupNameEmpty => "empty capture group name"
  | groupNameInvalid => "invalid capture group character"
  | groupNameUnexpectedEnd => "unclosed capture group name"
  | groupUnclosed => "unclosed group"
  | groupUnopened => "unopened group"
  | nestLimitExceeded limit =>
    "exceed the maximum number of nested parentheses/brackets (" ++ toString limit ++ ")"
  | repetitionCountInvalid =>
    "invalid repetition count range, the start must be <= the end"
  | repetitionCountEmpty => "repetition quantifier expects a valid decimal"
  | repetitionCountUnclosed => "unclosed counted repetition"
  | repetitionMissing => "repetition operator missing expression"
  | wordBoundaryUnclosed =>
    "special word boundary assertion is either unclosed or contains an invalid character"
  | wordBoundaryUnrecognized =>
    "unrecognized special word boundary assertion, valid choices are: start, end, start-half or end-half"
  | wordBoundaryUnexpectedEnd =>
    "found either the beginning of a special word boundary or a bounded repetition on a \\b with an opening brace, but no closing brace"
  | propertyClassInvalid => "invalid Unicode character class"
  | unsupportedBackreference => "backreferences are not supported"
  | unsupportedLookAround =>
    "look-around, including look-ahead and look-behind, is not supported"
  | unicodeNotAllowed => "Unicode not allowed here"
  | invalidText => "pattern can match invalid UTF-8"
  | propertyNotFound => "Unicode property not found"
  | propertyValueNotFound => "Unicode property value not found"

/-- A fault and its place; of a repetition also the place of what is repeated. -/
structure Fault where
  kind : FaultKind
  span : Span
  other? : Option Span := none
deriving DecidableEq, Repr

/-- A place as line and column, both from one. -/
structure Position where
  line : Nat
  column : Nat

def positionOf (pattern : List Char) (offset : Nat) : Position :=
  let before := Text.splitWhen (· == '\n') (pattern.take offset)
  ⟨before.length, (before.getLastD []).length + 1⟩

/-- The lines of a pattern without their ends; nothing follows the last line break. -/
def patternLines (pattern : List Char) : List (List Char) :=
  let pieces := Text.splitWhen (· == '\n') pattern
  let ended := pieces.dropLast.map fun l => if l.getLast? = some '\r' then l.dropLast else l
  match pieces.getLast? with
  | some last => if last.isEmpty then ended else ended ++ [last]
  | none => ended

/-- Marks below the given columns of a line; `column` is where the next mark may stand. -/
def marks : Nat → List (Position × Position) → List Char
  | _, [] => []
  | column, (a, b) :: rest =>
    let blanks := a.column - 1 - column
    let carets := max 1 (b.column - a.column)
    List.replicate blanks ' ' ++ List.replicate carets '^' ++
      marks (column + blanks + carets) rest

/-- The lines of a pattern numbered from `number`, each with its marks below it. -/
def markedLines (width : Nat) (spans : List (Position × Position)) : Nat → List (List Char) →
    List String
  | _, [] => []
  | number, line :: rest =>
    let digits := Nat.toDigits 10 number
    let lead :=
      if width = 0 then List.replicate 4 ' '
      else List.replicate (width - digits.length) ' ' ++ digits ++ [':', ' ']
    let own := spans.filter (·.1.line == number)
    let below :=
      if own.isEmpty then []
      else [String.ofList (List.replicate (if width = 0 then 4 else 2 + width) ' ' ++ marks 0 own)]
    String.ofList (lead ++ line) :: below ++ markedLines width spans (number + 1) rest

/-- The note on a place that covers several lines. -/
def spanNote (s : Position × Position) : String :=
  "on line " ++ toString s.1.line ++ " (column " ++ toString s.1.column ++ ") through line " ++
    toString s.2.line ++ " (column " ++ toString (s.2.column - 1) ++ ")"

/-- A fault of `pattern` with the pattern above it. -/
def Fault.render (pattern : String) (f : Fault) : String :=
  let cs := pattern.toList
  let spans := ((f.span :: f.other?.toList).mergeSort fun a b => a.start ≤ b.start).map fun s =>
    (positionOf cs s.start, positionOf cs s.stop)
  let single := spans.filter fun s => s.1.line == s.2.line
  let multiple := spans.filter fun s => s.1.line != s.2.line
  if '\n' ∈ cs then
    let count := (Text.splitWhen (· == '\n') cs).length
    let width := if count ≤ 1 then 0 else (Nat.toDigits 10 count).length
    let divider := String.ofList (List.replicate 79 '~')
    Text.join "\n" <| ["regex parse error:", divider] ++
      markedLines width single 1 (patternLines cs) ++ [divider] ++
      multiple.map spanNote ++ ["error: " ++ f.kind.message]
  else
    Text.join "\n" <| ["regex parse error:"] ++ markedLines 0 single 1 (patternLines cs) ++
      ["error: " ++ f.kind.message]

end AspectForms.Pattern
