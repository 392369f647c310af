import AspectForms.Document.FromJson
import AspectForms.Document.FromYaml
import AspectForms.Failure
import AspectForms.Files.Path
import AspectForms.Model.Reader

/-!
The notations of model documents.
-/

namespace AspectForms

inductive ModelFormat
  | yaml
  | json
deriving DecidableEq, Repr

/-- The notation that the extension of a path stands for. -/
def ModelFormat.ofPath? (path : String) : Option ModelFormat :=
  match Path.extension? path with
  | some "yaml" => some .yaml
  | some "yml" => some .yaml
  | some "json" => some .json
  | _ => none

def ModelFormat.read : ModelFormat → String → Except Cause Document
  | .json, text => (Json.read Model.Reader.document text).mapError .json
  | .yaml, text => (Yaml.read Model.Reader.document text).mapError fun _ => .yaml

def ModelFormat.parse (format : ModelFormat) (text : String) : Except Cause Model := do
  let doc ← format.read text
  doc.resolve.mapError .model

end AspectForms
