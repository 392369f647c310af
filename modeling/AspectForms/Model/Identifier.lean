import AspectForms.Model.Basic
import AspectForms.Text.Split

/-!
Type identifiers: the short names of scalar types and the shorthands that documents use for their
namespaces.
-/

namespace AspectForms

def xsdNamespace : String := "http://www.w3.org/2001/XMLSchema#"

/-- The namespace of `langString`. -/
def rdfNamespace : String := "http://www.w3.org/1999/02/22-rdf-syntax-ns#"

/-- The namespace of the meta-model's own scalar types. -/
def sammNamespace : String := "urn:samm:org.eclipse.esmf.samm:meta-model:2.1.0#"

/-- The last segment of a type identifier: what follows the last `#`, or without any the last `/` or
`:`. -/
def shortUrn (urn : String) : String :=
  let cs := urn.toList
  String.ofList <|
    if '#' ∈ cs then Text.afterLast (· == '#') cs
    else Text.afterLast (fun c => c == '/' || c == ':') cs

def shorthands : List (String × String) :=
  [("xsd:", xsdNamespace), ("rdf:", rdfNamespace), ("samm:", sammNamespace)]

/-- Replace a shorthand by its namespace. -/
def expandUrn (urn : String) : String :=
  match shorthands.findSome? fun s =>
      (s.1.toList.isPrefixOf? urn.toList).map fun rest => s.2 ++ String.ofList rest with
  | some full => full
  | none => urn

/-- The short name of a data type; an entity's is its name. -/
def DataType.short : DataType → String
  | .scalar urn => shortUrn urn
  | .entity e => e.name

end AspectForms
