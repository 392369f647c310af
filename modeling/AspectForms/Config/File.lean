import AspectForms.Config.Reader
import AspectForms.Document.FromJson
import AspectForms.Document.FromToml
import AspectForms.Document.FromYaml
import AspectForms.Files.Disk

/-!
Configurations in files.
-/

namespace AspectForms

/-- A notation for configurations. -/
inductive ConfigFormat
  | yaml
  | toml
  | json
deriving DecidableEq, Repr

namespace ConfigFormat

/-- The notation that the extension of a path stands for; JSON if it stands for none. -/
def ofPath (path : String) : ConfigFormat :=
  match Path.extension? path with
  | some "yaml" => yaml
  | some "yml" => yaml
  | some "toml" => toml
  | _ => json

/-- The configuration of a text. -/
def parse : ConfigFormat → String → Except Cause Config
  | yaml, text => (Yaml.read Config.Reader.config text).mapError fun _ => .yaml
  | toml, text => (Toml.read Config.Reader.config text).mapError fun _ => .toml
  | json, text => (Json.read Config.Reader.config text).mapError .json

end ConfigFormat

namespace Config

/-- The configuration in a file. -/
def load (disk : Disk) (path : String) : Except Failure Config := do
  let text ← (disk.readText path).mapError fun e =>
    (Failure.of (.file e)).within ("Failed to read generator config: " ++ path)
  ((ConfigFormat.ofPath path).parse text).mapError fun c =>
    (Failure.of c).within ("Failed to parse generator config: " ++ path)

/-- The configuration in a file, or without a file the one in which nothing is chosen. -/
def loadOrDefault (disk : Disk) : Option String → Except Failure Config
  | some path => load disk path
  | none => .ok {}

end Config

end AspectForms
