import AspectForms.Field.Compose
import AspectForms.Pattern.Extent

/-!
Lint: what will go wrong, be dropped or degrade when fields are made of a model.  The aspect and every
entity are looked at once, each under its own name.
-/

namespace AspectForms

/-- How bad a finding is. -/
inductive Severity
  /-- What is generated will be wrong. -/
  | error
  /-- Something is dropped in silence. -/
  | warning
  /-- A field will be plainer than it could be. -/
  | info
deriving DecidableEq, Repr, Inhabited

def Severity.word : Severity → String
  | error => "error"
  | warning => "warning"
  | info => "info"

/-- Where a pattern stands. -/
inductive PatternRole
  | constraint
  | rulePart
deriving DecidableEq, Repr

def PatternRole.word : PatternRole → String
  | constraint => "pattern"
  | rulePart => "rule part"

/-- A constraint that can be empty. -/
inductive EmptyConstraint
  | range
  | length
  | pattern
deriving DecidableEq, Repr

def EmptyConstraint.word : EmptyConstraint → String
  | range => "range"
  | length => "length"
  | pattern => "regular expression"

/-- What is found at one place of a model. -/
inductive Finding
  /-- Two properties of `owner` share a name. -/
  | duplicateProperty (name owner : String)
  | invalidName (name : String)
  | nestedTrait (outer inner : String)
  /-- No kind of field fits. -/
  | fallback (characteristic : String) (type? : Option String)
  | emptyConstraint (kind : EmptyConstraint)
  | unsupportedEncoding (value : String)
  | invalidPattern (role : PatternRole) (pattern : String) (fault : Pattern.Fault)
  /-- Only the place where the pattern is used can tell whether it is one. -/
  | uncheckedPattern (role : PatternRole) (pattern : String)
  | duplicateBranch (characteristic name : String)
  | partMismatch (characteristic : String) (parts elements : Nat)

namespace Finding

/-- The word for a kind of finding. -/
def kind : Finding → String
  | duplicateProperty .. => "duplicate_property"
  | invalidName _ => "invalid_property_name"
  | nestedTrait .. => "nested_trait"
  | fallback .. => "default_strategy"
  | emptyConstraint _ => "vacuous_constraint"
  | unsupportedEncoding _ => "unsupported_encoding"
  | invalidPattern .constraint .. => "invalid_regular_expression"
  | invalidPattern .rulePart .. => "invalid_deconstruction_rule"
  | uncheckedPattern .. => "unchecked_regular_expression"
  | duplicateBranch .. => "duplicate_either_branch"
  | partMismatch .. => "structured_value_mismatch"

def severity : Finding → Severity
  | duplicateProperty .. => .error
  | invalidName _ => .warning
  | nestedTrait .. => .warning
  | fallback .. => .info
  | emptyConstraint _ => .info
  | unsupportedEncoding _ => .warning
  | invalidPattern .. => .error
  | uncheckedPattern .. => .warning
  | duplicateBranch .. => .error
  | partMismatch .. => .error

def message : Finding → String
  | duplicateProperty name owner =>
    "'" ++ name ++ "' is declared more than once under " ++ owner
  | invalidName name => "'" ++ name ++ "' is not a valid TypeScript identifier"
  | nestedTrait outer inner =>
    "trait '" ++ outer ++ "' wraps trait '" ++ inner ++ "'; only the outer constraints are applied"
  | fallback c type? =>
    "characteristic '" ++ c ++ "' (data type " ++ type?.getD "none" ++
      ") falls back to a plain text field"
  | emptyConstraint kind => kind.word ++ " constraint has no bounds and generates no validator"
  | unsupportedEncoding value =>
    "encoding '" ++ value ++ "' is not supported; no validator is generated"
  | invalidPattern role pattern fault =>
    role.word ++ " '" ++ pattern ++ "' is not a valid regular expression: " ++
      fault.render pattern
  | uncheckedPattern role pattern =>
    role.word ++ " '" ++ pattern ++ "' uses syntax the linter cannot verify"
  | duplicateBranch c name => "both branches of '" ++ c ++ "' are named '" ++ name ++ "'"
  | partMismatch c parts elements =>
    "deconstruction rule splits into " ++ toString parts ++ " part(s) but '" ++ c ++ "' has " ++
      toString elements ++ " element(s)"

/-- How to mend what was found. -/
def suggestion? : Finding → Option String
  | duplicateProperty .. =>
    some "Rename one of the properties; both would register the same form control"
  | invalidName _ => some "Use letters, digits, '_' or '$', not starting with a digit"
  | nestedTrait .. => some "Merge the constraints into a single trait"
  | fallback .. => none
  | emptyConstraint _ => none
  | unsupportedEncoding _ =>
    some "Use US-ASCII, ISO-8859-1, UTF-8, UTF-16, UTF-16BE or UTF-16LE"
  | invalidPattern .. => none
  | uncheckedPattern .. => some "Check the pattern against JavaScript RegExp semantics"
  | duplicateBranch .. => some "Give the left and right properties different names"
  | partMismatch .. => some "Separate one capture pattern per element with '@'"

end Finding

/-- A finding and its place, a path of names joined by dots. -/
structure Issue where
  location : String
  finding : Finding

def Issue.severity (i : Issue) : Severity := i.finding.severity

def hasErrors (issues : List Issue) : Bool :=
  issues.any fun i => i.severity == .error

namespace Lint

/-- Whether a name can name a member: ASCII letters, digits, `_` and `$`, no digit in front. -/
def isIdentifier (name : String) : Bool :=
  match name.toList with
  | [] => false
  | c :: cs =>
    (c.isAlpha || c == '_' || c == '$') && cs.all fun c => c.isAlphanum || c == '_' || c == '$'

def occursIn (part : List Char) : List Char → Bool
  | [] => part.isEmpty
  | c :: cs => part.isPrefixOf (c :: cs) || occursIn part cs

/-- What is wrong with a pattern.  A report that speaks of something not supported leaves it open
whether the pattern is one, and so does a pattern that is too large. -/
def patternFinding? (role : PatternRole) (pattern : String) : Option Finding :=
  match Pattern.verdict pattern with
  | .accepted => none
  | .oversized => some (.uncheckedPattern role pattern)
  | .faulty fault =>
    if occursIn "not supported".toList (fault.render pattern).toList then
      some (.uncheckedPattern role pattern)
    else some (.invalidPattern role pattern fault)

def constraintFinding? : Constraint → Option Finding
  | .range _ min max .. =>
    if isGiven min || isGiven max then none else some (.emptyConstraint .range)
  | .length _ min max =>
    if min.isSome || max.isSome then none else some (.emptyConstraint .length)
  | .pattern _ expression =>
    if expression.isEmpty then some (.emptyConstraint .pattern)
    else patternFinding? .constraint expression
  | .encoding _ value =>
    match supportedEncoding? value with
    | some _ => none
    | none => some (.unsupportedEncoding value)
  | .fixedPoint .. => none

/-- What is wrong with a property itself, without the properties inside it. -/
def ownFindings (p : Property DataType) : List Finding :=
  let c := p.characteristic.unwrapped
  (if isIdentifier p.name then [] else [.invalidName p.name]) ++
  (match p.characteristic with
    | .trait outer (.trait inner ..) _ => [.nestedTrait outer inner]
    | _ => []) ++
  (if p.kind = .fallback then [.fallback c.name (c.dataType?.map DataType.short)] else []) ++
  p.characteristic.constraints.filterMap constraintFinding? ++
  match c with
  | .either n l r => if l.name = r.name then [.duplicateBranch n l.name] else []
  | .structured n _ rule parts =>
    let pieces := PropertyOf.ruleParts rule
    let elements := (partProperties parts).length
    (if pieces.length = elements then [] else [.partMismatch n pieces.length elements]) ++
      pieces.filterMap (patternFinding? .rulePart)
  | _ => []

mutual

/-- The issues of a property at `location`, then those of the properties inside it. -/
def property (location : String) : PropertyOf (Characteristic DataType) → List Issue
  | ⟨n, u, o, e, c⟩ =>
    (ownFindings ⟨n, u, o, e, c⟩).map (⟨location, ·⟩) ++ inside location true c
termination_by structural p => p

/-- The issues of the properties inside a characteristic; one trait is looked through if `unwrap` is
set. -/
def inside (location : String) (unwrap : Bool) : Characteristic DataType → List Issue
  | .trait _ base _ => if unwrap then inside location false base else []
  | .either _ l r =>
    property (location ++ "." ++ l.name) l ++ property (location ++ "." ++ r.name) r
  | .structured _ _ _ parts => insideParts location parts
  | _ => []
termination_by structural c => c

def insideParts (location : String) : List (PartOf (Characteristic DataType)) → List Issue
  | [] => []
  | p :: ps => insidePart location p ++ insideParts location ps
termination_by structural ps => ps

def insidePart (location : String) : PartOf (Characteristic DataType) → List Issue
  | .literal _ => []
  | .property p => property (location ++ "." ++ p.name) p
termination_by structural p => p

end

/-- The issues of properties of `owner`; `seen` are the names before them. -/
def properties (owner : String) : List String → List (Property DataType) → List Issue
  | _, [] => []
  | seen, p :: ps =>
    let location := owner ++ "." ++ p.name
    (if p.name ∈ seen then [⟨location, .duplicateProperty p.name owner⟩] else []) ++
      property location p ++ properties owner (p.name :: seen) ps

/-- The issues of an aspect or entity. -/
def element (e : Element DataType) : List Issue := properties e.name [] e.properties

end Lint

/-- The issues of a model: those of the aspect, then those of each entity. -/
def Model.lint (m : Model) : List Issue :=
  Lint.element m.aspect ++ m.entities.flatMap Lint.element

namespace Lint

def issueLines (i : Issue) : List String :=
  ["   [" ++ i.finding.kind ++ "] " ++ i.location, "      " ++ i.finding.message] ++
  match i.finding.suggestion? with
  | some s => ["      💡 Suggestion: " ++ s]
  | none => []

/-- The lines about the issues of one severity, under a heading. -/
def group (heading : String) (issues : List Issue) : List String :=
  if issues.isEmpty then [] else [heading] ++ issues.flatMap issueLines ++ [""]

/-- The lines about some issues, the worst first. -/
def lines (issues : List Issue) : List String :=
  if issues.isEmpty then ["✅ No lint issues found!"]
  else
    let of (s : Severity) := issues.filter (·.severity == s)
    ["", "📋 Lint Results:",
      "   " ++ toString (of .error).length ++ " error(s), " ++ toString (of .warning).length ++
        " warning(s), " ++ toString (of .info).length ++ " info(s)", ""] ++
    group "❌ Errors (must fix):" (of .error) ++
    group "⚠️  Warnings (should fix):" (of .warning) ++
    group "ℹ️  Info (generation degrades):" (of .info)

end Lint

end AspectForms
