import AspectForms.Config
import AspectForms.Field.Basic
import AspectForms.Text.Words

/-!
Composition: the fields of an element, in declaration order, without the properties that the
configuration drops.
-/

namespace AspectForms

namespace PropertyOf

/-- The kind of field a property gets.  Only its outermost trait is looked through. -/
def kind (p : Property DataType) : FieldKind :=
  FieldKind.select p.characteristic.unwrapped

def short? (p : Property DataType) : Option String :=
  p.dataType?.map DataType.short

/-- The properties shown inside the field of this one. -/
def inner (config : Config) (p : Property DataType) : List (Property DataType) :=
  match p.characteristic.unwrapped with
  | .either _ l r => [l, r]
  | .structured _ _ _ parts => partProperties parts
  | .singleEntity _ (.entity e) => e.properties.filter fun q => !config.excludes q
  | .scalar _ (some (.entity e)) _ => e.properties.filter fun q => !config.excludes q
  | _ => []

/-- A property that must have a value is checked for one. -/
def baseValidators (p : Property DataType) : List Validator :=
  if p.optional then [] else [.required]

/-- The parts of a deconstruction rule, one per element. -/
def ruleParts (rule : String) : List String := Text.splitOn '@' rule

/-- The names of a structured value's elements, each with its part of the rule. -/
def rulePairs (rule : String) (parts : List (Part DataType)) : List Value :=
  ((partProperties parts).zip (ruleParts rule)).map fun e =>
    .object [("name", .string e.1.name), ("rule", .string e.2)]

/-- The validators that follow from the characteristic itself. -/
def typeValidators (p : Property DataType) : List Validator :=
  match p.kind, p.characteristic.unwrapped with
  | .duration, _ => (p.short?.bind temporalValidator?).toList
  | .time, _ => (p.short?.bind temporalValidator?).toList
  | .either, .either _ l r =>
    let names := Json.text (.array [.string l.name, .string r.name])
    [⟨"uniqueValues", Validator.call "uniqueValuesValidator" [names], true⟩]
  | .structured, .structured _ _ rule parts =>
    let pairs := Json.text (.array (rulePairs rule parts))
    [⟨"deconstructionRule", Validator.call "deconstructionRuleValidator" [pairs], true⟩]
  | _, _ => []

/-- The validators of the outermost trait's constraints. -/
def constraintValidators (p : Property DataType) : List Validator :=
  p.characteristic.constraints.flatMap fun c => c.validators p.kind

/-- All validators: for presence, for the type, for the constraints. -/
def validators (p : Property DataType) : List Validator :=
  p.baseValidators ++ p.typeValidators ++ p.constraintValidators

/-- The example as a text; a text stands for itself. -/
def exampleText? (p : Property DataType) : Option String :=
  p.example?.map fun
    | .string s => s
    | v => Json.text v

def unitName? (p : Property DataType) : Option String :=
  p.characteristic.unwrapped.unit?.map (·.name)

/-- The field of a property, given the fields inside it. -/
def toField (p : Property DataType) (children : List Field) : Field :=
  let short := p.short?.getD ""
  let base : Field := {
    name := p.name
    dashed := Text.kebabCase p.name
    kind := p.kind
    validators := p.validators
    children? := if p.kind.hasChildren then some children else none }
  match p.kind with
  | .text | .textArea | .number | .fallback =>
    { base with example? := p.exampleText?, unit? := p.unitName? }
  | .date | .dateTime => { base with dataFormat? := dateFormat? short }
  | .duration =>
    { base with
      placeholder? := durationPlaceholder? short
      hint? := (durationPlaceholder? short).map fun s => "ISO 8601 duration, e.g. " ++ s }
  | .time => { base with unit? := p.unitName?, placeholder? := some timePlaceholder }
  | .datePartial =>
    { base with dataFormat? := dateFormat? short, hint? := partialDateHint? short }
  | .enumeration =>
    match p.characteristic.unwrapped with
    | .enumeration _ _ values => { base with values? := some values }
    | _ => base
  | .structured =>
    match p.characteristic.unwrapped with
    | .structured _ _ rule _ => { base with rule? := some rule }
    | _ => base
  | .boolean | .list | .complex | .either => base

end PropertyOf

section Compose

variable (config : Config)

mutual

def composeField : Property DataType → Field
  | ⟨n, u, o, e, c⟩ => PropertyOf.toField ⟨n, u, o, e, c⟩ (fieldsInside true c)
termination_by structural p => p

/-- The fields inside a characteristic; one trait is looked through if `unwrap` is set. -/
def fieldsInside (unwrap : Bool) : Characteristic DataType → List Field
  | .trait _ base _ => if unwrap then fieldsInside false base else []
  | .either _ l r => [composeField l, composeField r]
  | .structured _ _ _ parts => partFields parts
  | .singleEntity _ t => typeFields t
  | .scalar _ t _ => typeFields? t
  | _ => []
termination_by structural c => c

def typeFields : DataType → List Field
  | .scalar _ => []
  | .entity e => elementFields e
termination_by structural t => t

def typeFields? : Option DataType → List Field
  | none => []
  | some t => typeFields t
termination_by structural t => t

def elementFields : Element DataType → List Field
  | ⟨_, _, ps⟩ => composeFields ps
termination_by structural e => e

def partFields : List (PartOf (Characteristic DataType)) → List Field
  | [] => []
  | p :: ps => partField p ++ partFields ps
termination_by structural ps => ps

/-- The field of a part, if it is a property. -/
def partField : PartOf (Characteristic DataType) → List Field
  | .literal _ => []
  | .property p => [composeField p]
termination_by structural p => p

/-- The fields of the properties that are not dropped. -/
def composeFields : List (PropertyOf (Characteristic DataType)) → List Field
  | [] => []
  | p :: ps =>
    if config.excludes p then composeFields ps else composeField p :: composeFields ps
termination_by structural ps => ps

end

end Compose

def Element.fields (e : Element DataType) (config : Config) : List Field :=
  composeFields config e.properties

end AspectForms
