import AspectForms.Component.Form
import AspectForms.Component.View
import AspectForms.Field.Compose
import AspectForms.Text.Words

/-!
A generation run: the selected element of a model becomes a form, a table or a list of cards, whose files
go into one directory below the output.
-/

namespace AspectForms

inductive Target
  | form
  | table
  | card
deriving DecidableEq, Repr, Inhabited

def Target.word : Target → String
  | form => "form"
  | table => "table"
  | card => "card"

def Target.all : List Target := [form, table, card]

/-- The name of the generated component in files and selectors: the configured one, or without it that
of the element and the target. -/
def Config.stem (config : Config) (element : String) (target : Target) : String :=
  if (Text.trim config.name).isEmpty then Text.kebabCase (element ++ "-" ++ target.word)
  else Text.kebabCase config.name

/-- What a run generates, before anything is written. -/
structure Plan where
  components : List Registration
  columns : List Column
  drafts : List Draft

def Target.plan (target : Target) (config : Config) (stem title : String) (fields : List Field) :
    Plan :=
  match target with
  | form => ⟨Form.registrations fields, [], Form.drafts stem title fields⟩
  | table =>
    ⟨[], resolveColumns config fields, (Table.component config stem title fields).drafts⟩
  | card => ⟨[], resolveColumns config fields, (Card.component config stem title fields).drafts⟩

/-- The summary of a run. -/
structure Report where
  target : Target
  /-- The aspect or entity that was generated for. -/
  element : String
  directory : String
  /-- The number of fields at the top. -/
  fields : Nat
  components : List Registration
  columns : List Column
  artifacts : List Artifact
deriving Repr, Inhabited

namespace Report

/-- How many artifacts ended in one of these ways. -/
def count (r : Report) (outcomes : List Outcome) : Nat :=
  (r.artifacts.filter fun a => outcomes.contains a.outcome).length

/-- The files written, whether new or not. -/
def written (r : Report) : Nat := r.count [.written, .overwritten]

/-- The files left alone. -/
def skipped (r : Report) : Nat := r.count [.skipped]

/-- The files that a dry run would write. -/
def planned (r : Report) : Nat := r.count [.planned]

end Report

/-- Generate a target for the configured element.  A failure keeps what was written before it. -/
def Model.generate {σ : Type} [FileSystem σ] (model : Model) (config : Config) (target : Target)
    (output : String) (dryRun : Bool) (disk : σ) : σ × Except Failure Report :=
  match model.select config.element? with
  | .error e => (disk, .error (.of (.model e)))
  | .ok selection =>
    let element := selection.element
    let stem := config.stem element.name target
    let directory := Path.push output stem
    let fields := element.fields config
    let plan := target.plan config stem (Text.titleCase element.name) fields
    let progress := (Writer.mk directory config.overwrite dryRun).writeAll disk plan.drafts
    match progress.failure with
    | some f => (progress.disk, .error f)
    | none =>
      (progress.disk, .ok {
        target, element := element.name, directory, fields := fields.length
        components := plan.components, columns := plan.columns, artifacts := progress.artifacts })

end AspectForms
