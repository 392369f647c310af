import AspectForms.Model.Identifier

/-!
Resolution: every reference to an entity is replaced by the entity, each entity being resolved once.
The search goes depth first and keeps the names it is inside of; meeting one of them again is a cycle.
-/

namespace AspectForms

/-- Why a document or a request for one of its elements cannot be used. -/
inductive ModelError
  /-- The property `owner` refers to an entity that is not defined. -/
  | unknownEntity (name owner : String)
  /-- Entities that refer to each other, the last name repeating an earlier one. -/
  | cyclicEntity (chain : List String)
  /-- Neither the aspect nor an entity has this name or urn. -/
  | unknownElement (name : String)
  /-- The extension of a document is not one that is read. -/
  | unsupportedFormat (path : String)
deriving DecidableEq, Repr

def ModelError.message : ModelError → String
  | unknownEntity name owner =>
    "Model error: property '" ++ owner ++ "' references undefined entity '" ++ name ++ "'"
  | cyclicEntity chain =>
    "Model error: entity references form a cycle (" ++ Text.join " -> " chain ++ ")"
  | unknownElement name =>
    "Model error: '" ++ name ++ "' is neither the aspect nor a defined entity"
  | unsupportedFormat path =>
    "Model error: unsupported model document '" ++ path ++ "'. Expected .yaml, .yml or .json"

section Traverse

variable {τ υ : Type} {m : Type → Type} [Monad m]

mutual

/-- Replace every data type reference of a characteristic, in a fixed order.  `f` also gets the name of
the nearest property around the reference. -/
def Characteristic.traverse (f : String → τ → m υ) (owner : String) :
    Characteristic τ → m (Characteristic υ)
  | .scalar n t u => return .scalar n (← t.mapM (f owner)) u
  | .enumeration n t vs => return .enumeration n (← t.mapM (f owner)) vs
  | .collection n k t e => do
    let e ← traverseOption f owner e
    return .collection n k (← t.mapM (f owner)) e
  | .either n l r => do
    let l ← traverseProperty f l
    return .either n l (← traverseProperty f r)
  | .structured n t rule ps => do
    let ps ← traverseParts f ps
    return .structured n (← t.mapM (f owner)) rule ps
  | .singleEntity n t => return .singleEntity n (← f owner t)
  | .trait n b cs => return .trait n (← b.traverse f owner) cs
termination_by structural c => c

/-- `Characteristic.traverse` on a characteristic that may be missing. -/
def traverseOption (f : String → τ → m υ) (owner : String) :
    Option (Characteristic τ) → m (Option (Characteristic υ))
  | none => return none
  | some c => return some (← c.traverse f owner)
termination_by structural c => c

def traverseProperty (f : String → τ → m υ) : PropertyOf (Characteristic τ) → m (Property υ)
  | ⟨n, u, o, e, c⟩ => return ⟨n, u, o, e, ← c.traverse f n⟩
termination_by structural p => p

def traversePart (f : String → τ → m υ) : PartOf (Characteristic τ) → m (Part υ)
  | .literal s => return .literal s
  | .property p => return .property (← traverseProperty f p)
termination_by structural p => p

/-- Replace the references of all parts, in order. -/
def traverseParts (f : String → τ → m υ) : List (PartOf (Characteristic τ)) → m (List (Part υ))
  | [] => return []
  | p :: ps => do
    let p ← traversePart f p
    return p :: (← traverseParts f ps)
termination_by structural ps => ps

end

/-- Replace the references of all properties of an element, in order. -/
def Element.traverse (f : String → τ → m υ) (e : Element τ) : m (Element υ) :=
  return ⟨e.name, e.urn, ← e.properties.mapM (traverseProperty f)⟩

end Traverse

/-- The entities that have been resolved so far. -/
abbrev Registry := List (Element DataType)

/-- A step of resolution: it may add to the registry or fail. -/
abbrev Resolving := StateT Registry (Except ModelError)

/-- The written entity of a name. -/
def Document.entity? (doc : Document) (name : String) : Option (Element TypeRef) :=
  doc.entities.find? (·.name == name)

/-- A reference resolved, given how to resolve an entity. -/
def TypeRef.resolve (entity : String → String → Resolving (Element DataType)) (owner : String) :
    TypeRef → Resolving DataType
  | .scalar urn => return .scalar (expandUrn urn)
  | .entity name => return .entity (← entity owner name)

/-- The entity `name`, which the property `owner` refers to from inside the entities `path`.  The budget
bounds the length of `path`; names on it are distinct and defined, so the number of entities
suffices. -/
def Document.resolveEntity (doc : Document) (budget : Nat) (path : List String)
    (owner name : String) : Resolving (Element DataType) := do
  match (← get).find? (·.name == name) with
  | some done => return done
  | none =>
    if name ∈ path then throw (.cyclicEntity (path ++ [name]))
    match doc.entity? name with
    | none => throw (.unknownEntity name owner)
    | some written =>
      match budget with
      | 0 => throw (.cyclicEntity (path ++ [name]))
      | budget + 1 =>
        let resolved ← written.traverse (TypeRef.resolve (doc.resolveEntity budget (path ++ [name])))
        modify (· ++ [resolved])
        return resolved

/-- The model of a document: its entities in order, then the aspect. -/
def Document.resolveAll (doc : Document) : Resolving Model := do
  let entity := doc.resolveEntity doc.entities.length []
  let entities ← doc.entities.mapM fun e => entity doc.aspect.name e.name
  let aspect ← doc.aspect.traverse (TypeRef.resolve entity)
  return ⟨aspect, entities⟩

def Document.resolve (doc : Document) : Except ModelError Model :=
  doc.resolveAll.run' []

/-- What generation starts from. -/
inductive Selection
  | aspect (element : Element DataType)
  | entity (element : Element DataType)

/-- The selected aspect or entity. -/
def Selection.element : Selection → Element DataType
  | aspect e => e
  | entity e => e

def Element.answersTo {τ : Type} (e : Element τ) (name : String) : Bool :=
  e.name == name || e.urn == some name

/-- The aspect if no name is given, else the aspect or the first entity that goes by it. -/
def Model.select (model : Model) : Option String → Except ModelError Selection
  | none => .ok (.aspect model.aspect)
  | some name =>
    if model.aspect.answersTo name then .ok (.aspect model.aspect)
    else
      match model.entities.find? (·.answersTo name) with
      | some e => .ok (.entity e)
      | none => .error (.unknownElement name)

end AspectForms
