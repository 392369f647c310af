import AspectForms.Document.FromBuffer
import AspectForms.Model.Registry

/-!
Model documents as they are written: which fields the records have, which may be missing, and what
stands in for a missing name.
-/

namespace AspectForms.Model.Reader

open AspectForms.Document

/-- A data type: a text, or an object that names an entity. -/
def typeRef (b : Buffer) : Result TypeRef :=
  match b with
  | .string urn => .ok (.scalar urn)
  | .object _ =>
    match readRecord "struct variant DataTypeDoc::Entity"
        [requiredMember "entity" readText fun s _ => s] "" b with
    | .ok name => .ok (.entity name)
    | .error _ => refuse (.noAlternative "DataTypeDoc")
  | _ => refuse (.noAlternative "DataTypeDoc")

def unit : Buffer → Result UnitOfMeasure :=
  readRecord "struct UnitDoc"
    [requiredMember "name" readText fun s (u : UnitOfMeasure) => { u with name := s },
      optionalMember "symbol" readText fun s u => { u with symbol := s }]
    ⟨"", none⟩

def boundAlternatives : List (List String × Bound) :=
  Bound.all.map fun b => ([b.word], b)

def bound : Buffer → Result Bound :=
  Buffer.word boundAlternatives (Bound.all.map Bound.word)

inductive ConstraintKind
  | range
  | length
  | pattern
  | encoding
  | fixedPoint

def constraintAlternatives : List (List String × ConstraintKind) :=
  [(["range"], .range), (["length"], .length), (["regularExpression"], .pattern),
    (["encoding"], .encoding), (["fixedPoint"], .fixedPoint)]

/-- The fields of all kinds of constraints. -/
structure ConstraintDraft where
  name : Option String := none
  minValue : Option Value := none
  maxValue : Option Value := none
  lower : Bound := .atLeast
  upper : Bound := .atMost
  minLength : Option Nat := none
  maxLength : Option Nat := none
  value : String := ""
  integer : Nat := 0
  scale : Nat := 0

def constraintName : Member Buffer ConstraintDraft :=
  optionalMember "name" readText fun s d => { d with name := s }

def lengthBound : Buffer → Result Nat := Buffer.natural "u64" (Nat.pow 2 64 - 1)

def digitBound : Buffer → Result Nat := Buffer.natural "u32" (Nat.pow 2 32 - 1)

/-- The constraint of a kind; a missing bound is inclusive. -/
def constraintOfKind (kind : ConstraintKind) (b : Buffer) : Result Constraint := do
  match kind with
  | .range =>
    let d ← readRecord "struct RangeDoc"
      [constraintName,
        optionalMember "minValue" Buffer.value fun v d => { d with minValue := v },
        optionalMember "maxValue" Buffer.value fun v d => { d with maxValue := v },
        optionalMember "lowerBoundDefinition" bound fun w d => { d with lower := w.getD .atLeast },
        optionalMember "upperBoundDefinition" bound fun w d => { d with upper := w.getD .atMost }]
      {} b
    return .range d.name d.minValue d.maxValue d.lower d.upper
  | .length =>
    let d ← readRecord "struct LengthDoc"
      [constraintName,
        optionalMember "minValue" lengthBound fun n d => { d with minLength := n },
        optionalMember "maxValue" lengthBound fun n d => { d with maxLength := n }]
      {} b
    return .length d.name d.minLength d.maxLength
  | .pattern =>
    let d ← valueConstraint b
    return .pattern d.name d.value
  | .encoding =>
    let d ← valueConstraint b
    return .encoding d.name d.value
  | .fixedPoint =>
    let d ← readRecord "struct FixedPointDoc"
      [constraintName,
        requiredMember "integer" digitBound fun n d => { d with integer := n },
        requiredMember "scale" digitBound fun n d => { d with scale := n }]
      {} b
    return .fixedPoint d.name d.integer d.scale
where
  /-- The fields of a constraint that is one text. -/
  valueConstraint (b : Buffer) : Result ConstraintDraft :=
    readRecord "struct ValueConstraintDoc"
      [constraintName, defaultedMember "value" readText fun s d => { d with value := s }] {} b

def constraint (b : Buffer) : Result Constraint := do
  let (kind, rest) ← readTagged "ConstraintDoc" "kind"
    (chooseAlternative constraintAlternatives (constraintAlternatives.flatMap (·.1))) b
  constraintOfKind kind rest

inductive CharacteristicKind
  | scalar
  | enumeration
  | collection (kind : CollectionKind)
  | either
  | structured
  | singleEntity
  | trait

def characteristicAlternatives : List (List String × CharacteristicKind) :=
  [(["boolean", "characteristic", "code", "duration", "measurement", "multiLanguageText",
      "quantifiable", "text", "timestamp"], .scalar),
    (["enumeration", "state"], .enumeration), (["collection"], .collection .collection),
    (["list"], .collection .list), (["set"], .collection .set),
    (["sortedSet"], .collection .sortedSet), (["timeSeries"], .collection .timeSeries),
    (["either"], .either), (["structuredValue"], .structured), (["singleEntity"], .singleEntity),
    (["trait"], .trait)]

/-- A node that says which kind of characteristic it is. -/
def taggedCharacteristic {σ : Type} [Source σ] : σ → Result (CharacteristicKind × Buffer) :=
  readTagged "CharacteristicDoc" "kind"
    (chooseAlternative characteristicAlternatives (characteristicAlternatives.flatMap (·.1)))

structure PropertyDraft where
  name : String := ""
  urn : Option String := none
  optional : Bool := false
  example? : Option Value := none
  characteristic : Option (Characteristic TypeRef) := none

def property {σ : Type} [Source σ] (characteristic : σ → Result (Characteristic TypeRef)) (v : σ) :
    Result (Property TypeRef) := do
  let d ← readRecord "struct PropertyDoc"
    [requiredMember "name" readText fun s d => { d with name := s },
      optionalMember "urn" readText fun s d => { d with urn := s },
      defaultedMember "optional" Source.flag fun b d => { d with optional := b },
      optionalMember "exampleValue" Source.value fun e d => { d with example? := e },
      requiredMember "characteristic" characteristic fun c d =>
        { d with characteristic := some c }]
    ({} : PropertyDraft) v
  match d.characteristic with
  | some c => return ⟨d.name, d.urn, d.optional, d.example?, c⟩
  | none => refuse (.missingField "characteristic")

/-- The fields of all kinds of characteristics. -/
structure CharacteristicDraft where
  name : Option String := none
  type? : Option TypeRef := none
  unit : Option UnitOfMeasure := none
  values : List Value := []
  element : Option (Characteristic TypeRef) := none
  left : Option (Property TypeRef) := none
  right : Option (Property TypeRef) := none
  rule : String := ""
  parts : List (Part TypeRef) := []
  base : Option (Characteristic TypeRef) := none
  constraints : List Constraint := []

def nameMember : Member Buffer CharacteristicDraft :=
  optionalMember "name" readText fun s d => { d with name := s }

def typeMember : Member Buffer CharacteristicDraft :=
  optionalMember "dataType" typeRef fun t d => { d with type? := t }

/-- A value that a record has been checked to hold. -/
def present {α : Type} (name : String) : Option α → Result α
  | some a => .ok a
  | none => refuse (.missingField name)

/-- A part of a structured value: a text or a property. -/
def part (property : Buffer → Result (Property TypeRef)) (b : Buffer) : Result (Part TypeRef) :=
  match b with
  | .string s => .ok (.literal s)
  | b =>
    match property b with
    | .ok p => .ok (.property p)
    | .error _ => refuse (.noAlternative "StructuredElementDoc")

/-- The characteristic of a kind, given how to read those inside it.  A trait without a name is called
after its base. -/
def characteristicOfKind (inner : Buffer → Result (Characteristic TypeRef))
    (kind : CharacteristicKind) (b : Buffer) : Result (Characteristic TypeRef) := do
  match kind with
  | .scalar =>
    let d ← readRecord "struct ScalarDoc"
      [nameMember, typeMember, optionalMember "unit" unit fun u d => { d with unit := u }] {} b
    return .scalar (d.name.getD "Characteristic") d.type? d.unit
  | .enumeration =>
    let d ← readRecord "struct EnumerationDoc"
      [nameMember, typeMember,
        defaultedMember "values" (readItems Buffer.value) fun vs d => { d with values := vs }]
      {} b
    return .enumeration (d.name.getD "Enumeration") d.type? d.values
  | .collection kind =>
    let d ← readRecord "struct CollectionDoc"
      [nameMember, typeMember,
        optionalMember "elementCharacteristic" inner fun c d => { d with element := c }]
      {} b
    return .collection (d.name.getD kind.word) kind d.type? d.element
  | .either =>
    let d ← readRecord "struct EitherDoc"
      [nameMember,
        requiredMember "left" (property inner) fun p d => { d with left := some p },
        requiredMember "right" (property inner) fun p d => { d with right := some p }]
      {} b
    return .either (d.name.getD "Either") (← present "left" d.left) (← present "right" d.right)
  | .structured =>
    let d ← readRecord "struct StructuredValueDoc"
      [nameMember, typeMember,
        requiredMember "deconstructionRule" readText fun s d => { d with rule := s },
        defaultedMember "elements" (readItems (part (property inner))) fun ps d =>
          { d with parts := ps }]
      {} b
    return .structured (d.name.getD "StructuredValue") d.type? d.rule d.parts
  | .singleEntity =>
    let d ← readRecord "struct SingleEntityDoc"
      [nameMember, requiredMember "dataType" typeRef fun t d => { d with type? := some t }] {} b
    return .singleEntity (d.name.getD "SingleEntity") (← present "dataType" d.type?)
  | .trait =>
    let d ← readRecord "struct TraitDoc"
      [nameMember,
        requiredMember "base" inner fun c d => { d with base := some c },
        defaultedMember "constraints" (readItems constraint) fun cs d =>
          { d with constraints := cs }]
      {} b
    let base ← present "base" d.base
    return .trait (d.name.getD (base.name ++ "Trait")) base d.constraints

/-- A characteristic of at most `fuel` levels. -/
def nested : Nat → Buffer → Result (Characteristic TypeRef)
  | 0, _ => .error .malformed
  | fuel + 1, b => do
    let (kind, rest) ← taggedCharacteristic b
    characteristicOfKind (nested fuel) kind rest

def characteristic {σ : Type} [Source σ] (v : σ) : Result (Characteristic TypeRef) := do
  let (kind, rest) ← taggedCharacteristic v
  characteristicOfKind (nested (rest.depth + 1)) kind rest

def propertiesMember {σ : Type} [Source σ] : Member σ (Element TypeRef) :=
  defaultedMember "properties" (readItems (property characteristic)) fun ps e =>
    { e with properties := ps }

def urnMember {σ : Type} [Source σ] : Member σ (Element TypeRef) :=
  optionalMember "urn" readText fun s e => { e with urn := s }

def aspect {σ : Type} [Source σ] : σ → Result (Element TypeRef) :=
  readRecord "struct AspectDoc"
    [requiredMember "name" readText fun s (e : Element TypeRef) => { e with name := s },
      urnMember, propertiesMember]
    ⟨"", none, []⟩

/-- An entity, without its name. -/
def entity {σ : Type} [Source σ] : σ → Result (Element TypeRef) :=
  readRecord "struct EntityDoc" [urnMember, propertiesMember] ⟨"", none, []⟩

structure DocumentDraft where
  aspect : Option (Element TypeRef) := none
  entities : List (Element TypeRef) := []

def document {σ : Type} [Source σ] (v : σ) : Result Document := do
  let d ← readRecord "struct ModelDocument"
    [requiredMember "aspect" aspect fun e d => { d with aspect := some e },
      defaultedMember "entities" (readEntries entity) fun es d =>
        { d with entities := es.map fun e => { e.2 with name := e.1 } }]
    ({} : DocumentDraft) v
  return .ofElements (← present "aspect" d.aspect) d.entities

end AspectForms.Model.Reader
