import AspectForms.Model.Basic

/-!
The choices that steer a generation run.
-/

namespace AspectForms

/-- A property that is not to be generated. -/
structure Exclusion where
  /-- The property under which the choice was made; it has no effect. -/
  under : String
  /-- The identifier of the property to drop. -/
  identifier : String
deriving DecidableEq, Repr, Inhabited

/-- The nested properties to show of one complex property; none listed means all. -/
structure Showing where
  property : String
  names : List String := []
deriving DecidableEq, Repr, Inhabited

/-- The choices for one run. -/
structure Config where
  /-- The component name; a blank one is derived from the element and the target. -/
  name : String := ""
  /-- The aspect or entity to generate for; the aspect if absent. -/
  element? : Option String := none
  exclusions : List Exclusion := []
  showings : List Showing := []
  overwrite : Bool := false
  pagination : Bool := false
  commandBar : Bool := false
  outputDir? : Option String := none
deriving DecidableEq, Repr, Inhabited

/-- Whether a property is dropped: by its urn if it has one, else by its name. -/
def Config.excludes {χ : Type} (config : Config) (p : PropertyOf χ) : Bool :=
  config.exclusions.any fun e => e.identifier == p.identifier

/-- The nested properties to show of `property`, unless all are. -/
def Config.shownOf? (config : Config) (property : String) : Option (List String) :=
  match config.showings.find? (·.property == property) with
  | some s => if s.names.isEmpty then none else some s.names
  | none => none

end AspectForms
