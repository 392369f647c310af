import AspectForms.Files.Disk
import AspectForms.Model.Format

/-!
Models in files.
-/

namespace AspectForms

/-- The model in a file; the extension of its path says how it is written. -/
def Model.load (disk : Disk) (path : String) : Except Failure Model := do
  match ModelFormat.ofPath? path with
  | none => throw (.of (.model (.unsupportedFormat path)))
  | some format =>
    let text ← (disk.readText path).mapError fun e =>
      (Failure.of (.file e)).within ("Failed to read model document: " ++ path)
    (format.parse text).mapError fun c =>
      (Failure.of c).within ("Failed to load model document: " ++ path)

end AspectForms
