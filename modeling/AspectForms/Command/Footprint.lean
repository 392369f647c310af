import AspectForms.Command.Run

/-!
Which files a request looks at, so that a disk that holds these and nothing else is enough to run it.
-/

namespace AspectForms.Command

/-- The files that are read. -/
def inputs : Command → List String
  | generate o => o.model :: o.config?.toList
  | inspect model config? _ => model :: config?.toList
  | lint model _ _ => [model]

/-- The files that may be written, given the files that are read: those that a dry run names. -/
def outputs (disk : Disk) : Command → List String
  | generate o =>
    match prepare o disk with
    | .error _ => []
    | .ok (model, config) =>
      match model.generate config o.target (outputDirectory o config) true disk with
      | (_, .error _) => []
      | (_, .ok report) => report.artifacts.map fun a => Path.push report.directory a.path
  | _ => []

end AspectForms.Command
