import AspectForms.Generate

/-!
What the program can be asked to do.
-/

namespace AspectForms

/-- A generation as it is asked for; what is given here wins over the configuration. -/
structure GenerateOptions where
  model : String
  config? : Option String := none
  target : Target := .form
  output? : Option String := none
  name? : Option String := none
  element? : Option String := none
  /-- Replace files that exist. -/
  force : Bool := false
  /-- Say what would be written, and write nothing. -/
  dryRun : Bool := false
  /-- Have the files formatted by another program. -/
  format : Bool := false
deriving DecidableEq, Repr

/-- A request to the program. -/
inductive Command
  | generate (options : GenerateOptions)
  /-- Show the fields that would be generated. -/
  | inspect (model : String) (config? element? : Option String)
  /-- Show the issues of a model; `failOnError` lets an error decide the exit status. -/
  | lint (model : String) (failOnError errorsOnly : Bool)
deriving DecidableEq, Repr

end AspectForms
