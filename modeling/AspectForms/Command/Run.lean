import AspectForms.Command.Arguments
import AspectForms.Config.File
import AspectForms.Lint
import AspectForms.Logging.Config
import AspectForms.Model.File

/-!
What a request does: the files it leaves, the lines it prints, and the status with which it ends.
-/

namespace AspectForms

/-- What became of another program that was to be run. -/
inductive ProgramResult
  | missing
  | failed
  | succeeded
deriving DecidableEq, Repr

/-- What surrounds a run: the environment, and what becomes of other programs by name. -/
structure Surroundings where
  environment : Environment
  program : String → ProgramResult

structure Ending where
  disk : Disk
  /-- The lines printed. -/
  printed : List String := []
  /-- The lines printed about what went wrong. -/
  complaints : List String := []
  status : Nat := 0

namespace Ending

/-- The end of a run that fails. -/
def fail (disk : Disk) (printed : List String) (f : Failure) : Ending where
  disk
  printed
  complaints := Text.splitOn '\n' ("Error: " ++ f.headline)
  status := 1

/-- The printed lines as one text. -/
def output (e : Ending) : String := String.join (e.printed.map (· ++ "\n"))

end Ending

def Outcome.mark : Outcome → String
  | written => "+"
  | overwritten => "~"
  | skipped => "="
  | planned => "?"

namespace Report

def artifactLine (a : Artifact) : String :=
  "   " ++ a.outcome.mark ++ " " ++ String.ofList (a.path.toList.map fun c => if c = '\\' then '/' else c)

def dryLines (r : Report) : List String :=
  ("📝 Dry run: " ++ r.target.word ++ (if r.target = .form then " components" else " component") ++
    " for " ++ r.element ++ " would write " ++ toString r.planned ++ " file(s) to " ++ r.directory) ::
  r.artifacts.map artifactLine

def lines (r : Report) : List String :=
  ("✅ Generated " ++ r.target.word ++ " for " ++ r.element ++ " in " ++ r.directory) ::
  r.artifacts.map artifactLine ++
  ["   " ++ toString r.written ++ " written, " ++ toString r.skipped ++ " skipped"] ++
  if 0 < r.skipped then ["   💡 Use --force to overwrite existing files"] else []

end Report

/-- A configuration in which the choices of a request win. -/
def Config.override (config : Config) (name? element? : Option String) (force : Bool) : Config :=
  { config with
    name := name?.getD config.name
    element? := element?.or config.element?
    overwrite := config.overwrite || force }

/-- Have the files of a directory formatted. -/
def formatFiles (s : Surroundings) : Except Failure Unit :=
  let formatter := (s.environment.lookup "ASPECTGEN_PRETTIER_BIN").getD "prettier"
  match s.program formatter with
  | .succeeded => .ok ()
  | .failed => .error (.of (.formatter "prettier failed"))
  | .missing =>
    .error (.of (.formatter ("Failed to run " ++ formatter ++ ": " ++ FileError.notFound.message)))

/-- The issues that are shown. -/
def Lint.retained (errorsOnly : Bool) (issues : List Issue) : List Issue :=
  if errorsOnly then issues.filter (·.severity == .error) else issues

namespace Command

/-- The model and the configuration that a generation starts from. -/
def prepare (o : GenerateOptions) (disk : Disk) : Except Failure (Model × Config) := do
  let model ← Model.load disk o.model
  let config ← Config.loadOrDefault disk o.config?
  return (model, config.override o.name? o.element? o.force)

def outputDirectory (o : GenerateOptions) (config : Config) : String :=
  (o.output?.or config.outputDir?).getD "."

/-- Generate, and say what has been written. -/
def runGenerate (s : Surroundings) (o : GenerateOptions) (disk : Disk) : Ending :=
  match prepare o disk with
  | .error f => .fail disk [] f
  | .ok (model, config) =>
    match model.generate config o.target (outputDirectory o config) o.dryRun disk with
    | (disk, .error f) => .fail disk [] f
    | (disk, .ok report) =>
      if o.dryRun then { disk, printed := report.dryLines }
      else if !o.format then { disk, printed := report.lines }
      else
        match formatFiles s with
        | .error f => .fail disk report.lines f
        | .ok () => { disk, printed := report.lines }

def inspection (model : String) (config? element? : Option String) (disk : Disk) :
    Except Failure String := do
  let m ← Model.load disk model
  let config ← Config.loadOrDefault disk config?
  let config := config.override none element? false
  let selection ← (m.select config.element?).mapError fun e => .of (.model e)
  return Json.prettyText (.array ((selection.element.fields config).map Field.toValue))

/-- Show the issues of a model.  If an error decides the status they are shown once more. -/
def lintLines (failOnError errorsOnly : Bool) (issues : List Issue) : List String × Nat :=
  let shown := Lint.retained errorsOnly issues
  if failOnError && hasErrors shown then (Lint.lines shown ++ Lint.lines shown, 1)
  else (Lint.lines shown, 0)

/-- Do what is asked for. -/
def run (s : Surroundings) (disk : Disk) : Command → Ending
  | generate o => runGenerate s o disk
  | inspect model config? element? =>
    match inspection model config? element? disk with
    | .error f => .fail disk [] f
    | .ok text => { disk, printed := [text] }
  | lint model failOnError errorsOnly =>
    match Model.load disk model with
    | .error f => .fail disk [] f
    | .ok m =>
      let (printed, status) := lintLines failOnError errorsOnly m.lint
      { disk, printed, status }

end Command

def Arguments.Refusal.status : Arguments.Refusal → Nat
  | help => 0
  | invalid => 2

def runArguments (s : Surroundings) (disk : Disk) (args : List String) : Ending :=
  match Command.ofArguments args with
  | .error r => { disk, status := r.status }
  | .ok command =>
    let ending := command.run s disk
    let warnings := (Logging.Config.ofEnvironment s.environment).warnings
    { ending with complaints := warnings ++ ending.complaints }

end AspectForms
