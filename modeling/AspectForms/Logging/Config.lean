import AspectForms.Logging.Directive

/-!
How logging is set up from the environment.
-/

namespace AspectForms

abbrev Environment := List (String × String)

namespace Logging

/-- The set-up of logging. -/
structure Config where
  /-- The word for the level, as it was given. -/
  levelWord : String := "info"
  /-- Whether events are written as JSON. -/
  json : Bool := false
  /-- More directives between commas. -/
  targets? : Option String := none
  /-- Whether events name the place they come from. -/
  location : Bool := false
deriving DecidableEq, Repr

namespace Config

/-- The set-up that the environment asks for. -/
def ofEnvironment (env : Environment) : Config where
  levelWord := (env.lookup "ASPECTGEN_LOG_LEVEL").getD "info"
  json := (env.lookup "ASPECTGEN_LOG_FORMAT").any (·.toLower == "json")
  targets? := env.lookup "ASPECTGEN_LOG_TARGET_FILTER"
  location := env.lookup "ASPECTGEN_LOG_INCLUDE_LOCATION" = some "true"

/-- The set-up for work on the program itself. -/
def development : Config := { levelWord := "debug", location := true }

/-- The level; `info` if its word is none. -/
def level (c : Config) : Level :=
  (Level.all.tail.find? (·.word == c.levelWord.toLower)).getD .info

/-- The further directives, without the empty ones. -/
def directives (c : Config) : List String :=
  match c.targets? with
  | none => []
  | some text => ((Text.splitOn ',' text).map Text.trim).filter (!·.isEmpty)

/-- The variable whose directives stand in for the level. -/
def overridingVariable : String := "RUST_LOG"

/-- The filter: the directives of the environment or else the level, and then the further directives that
are well formed. -/
def filter (c : Config) (env : Environment) : Filter :=
  let base :=
    match (env.lookup overridingVariable).bind Filter.ofText? with
    | some f => f
    | none => .ofDirectives [{ level := c.level }]
  (c.directives.filterMap Directive.ofText?).foldl Filter.add base

/-- What is said about the further directives that are not well formed. -/
def warnings (c : Config) : List String :=
  (c.directives.filter fun text => (Directive.ofText? text).isNone).map fun text =>
    "Warning: Invalid log filter directive: " ++ text

end Config

end Logging

end AspectForms
