import AspectForms.Json.Value

/-!
Aspect models: an aspect or entity lists properties, each property has a characteristic, and a
characteristic may refer to a data type, hold further properties or wrap another characteristic.

The tree is built over an arbitrary type `τ` of data type references.  A written document refers to
entities by name (`TypeRef`); in a resolved model the reference holds the entity itself (`DataType`).
-/

namespace AspectForms

inductive Bound
  | unbounded
  | atLeast
  | greaterThan
  | lessThan
  | atMost
deriving DecidableEq, Repr, Inhabited

/-- The word for a bound in documents and in generated validators. -/
def Bound.word : Bound → String
  | unbounded => "OPEN"
  | atLeast => "AT_LEAST"
  | greaterThan => "GREATER_THAN"
  | lessThan => "LESS_THAN"
  | atMost => "AT_MOST"

def Bound.all : List Bound := [unbounded, atLeast, greaterThan, lessThan, atMost]

/-- What a trait demands of the values of its base. -/
inductive Constraint
  | range (name : Option String) (min max : Option Value) (lower upper : Bound)
  | length (name : Option String) (min max : Option Nat)
  | pattern (name : Option String) (expression : String)
  | encoding (name : Option String) (value : String)
  | fixedPoint (name : Option String) (integer scale : Nat)
deriving Inhabited, Repr

def Constraint.name? : Constraint → Option String
  | range name .. => name
  | length name .. => name
  | pattern name _ => name
  | encoding name _ => name
  | fixedPoint name .. => name

structure UnitOfMeasure where
  name : String
  symbol : Option String
deriving DecidableEq, Repr, Inhabited

inductive CollectionKind
  | collection
  | list
  | set
  | sortedSet
  | timeSeries
deriving DecidableEq, Repr, Inhabited

/-- The name of a collection that a document leaves unnamed. -/
def CollectionKind.word : CollectionKind → String
  | collection => "Collection"
  | list => "List"
  | set => "Set"
  | sortedSet => "SortedSet"
  | timeSeries => "TimeSeries"

/-- A property whose characteristic is a `χ`. -/
structure PropertyOf (χ : Type) where
  name : String
  urn : Option String
  optional : Bool
  /-- A present `null` differs from no example at all. -/
  example? : Option Value
  characteristic : χ
deriving Inhabited, Repr

/-- A part of a structured value: separator text or a property of its own. -/
inductive PartOf (χ : Type)
  | literal (text : String)
  | property (p : PropertyOf χ)
deriving Inhabited, Repr

/-- What the values of a property look like. -/
inductive Characteristic (τ : Type)
  /-- Any characteristic without structure of its own: text, measurement, code and so on. -/
  | scalar (name : String) (type? : Option τ) (unit : Option UnitOfMeasure)
  | enumeration (name : String) (type? : Option τ) (values : List Value)
  | collection (name : String) (kind : CollectionKind) (type? : Option τ)
      (element : Option (Characteristic τ))
  | either (name : String) (left right : PropertyOf (Characteristic τ))
  | structured (name : String) (type? : Option τ) (rule : String)
      (parts : List (PartOf (Characteristic τ)))
  | singleEntity (name : String) (type : τ)
  | trait (name : String) (base : Characteristic τ) (constraints : List Constraint)
deriving Inhabited, Repr

/-- A property over the references `τ`. -/
abbrev Property (τ : Type) := PropertyOf (Characteristic τ)

/-- A part of a structured value over the references `τ`. -/
abbrev Part (τ : Type) := PartOf (Characteristic τ)

/-- An aspect or an entity: a name and an ordered list of properties. -/
structure Element (τ : Type) where
  name : String
  urn : Option String
  properties : List (PropertyOf (Characteristic τ))
deriving Inhabited, Repr

/-- A data type as a document writes it. -/
inductive TypeRef
  | scalar (urn : String)
  | entity (name : String)
deriving DecidableEq, Repr, Inhabited

/-- A resolved data type: a scalar's full urn, or the entity with its properties. -/
inductive DataType
  | scalar (urn : String)
  | entity (element : Element DataType)
deriving Inhabited

def DataType.isEntity : DataType → Bool
  | .scalar _ => false
  | .entity _ => true

def DataType.entity? : DataType → Option (Element DataType)
  | .scalar _ => none
  | .entity e => some e

namespace Characteristic

variable {τ : Type}

def name : Characteristic τ → String
  | scalar n .. => n
  | enumeration n .. => n
  | collection n .. => n
  | either n .. => n
  | structured n .. => n
  | singleEntity n _ => n
  | trait n .. => n

/-- The data type of the values; a trait has that of its base. -/
def dataType? : Characteristic τ → Option τ
  | scalar _ t _ => t
  | enumeration _ t _ => t
  | collection _ _ t _ => t
  | either .. => none
  | structured _ t .. => t
  | singleEntity _ t => some t
  | trait _ base _ => base.dataType?

def unit? : Characteristic τ → Option UnitOfMeasure
  | scalar _ _ u => u
  | _ => none

/-- The base of a trait, one level deep; anything else is its own base. -/
def unwrapped : Characteristic τ → Characteristic τ
  | trait _ base _ => base
  | c => c

/-- The constraints of the outermost trait. -/
def constraints : Characteristic τ → List Constraint
  | trait _ _ cs => cs
  | _ => []

end Characteristic

def partProperties {χ : Type} : List (PartOf χ) → List (PropertyOf χ)
  | [] => []
  | .literal _ :: ps => partProperties ps
  | .property p :: ps => p :: partProperties ps

namespace PropertyOf

/-- The urn if there is one, else the name. -/
def identifier {χ : Type} (p : PropertyOf χ) : String :=
  p.urn.getD p.name

/-- The data type after unwrapping a trait. -/
def dataType? {τ : Type} (p : Property τ) : Option τ :=
  p.characteristic.unwrapped.dataType?

end PropertyOf

/-- A document that has been read and not yet resolved.  Its entities stand in ascending order of their
names, each name once. -/
structure Document where
  aspect : Element TypeRef
  entities : List (Element TypeRef)
  ascending : (entities.map Element.name).Pairwise (· < ·) := by simp

/-- A resolved model: the aspect and every entity. -/
structure Model where
  aspect : Element DataType
  entities : List (Element DataType)
deriving Inhabited

end AspectForms
