import AspectForms.Generate
import AspectForms.Proofs.FileSystems

/-!
The parts of a run.  Main statement: a run selects an element and lets a writer deal with the files that
are planned for it.
-/

namespace AspectForms

namespace Selection

variable (s : Selection) (config : Config) (target : Target) (output : String)

/-- The name of the component generated for an element in its files. -/
def stem : String := config.stem s.element.name target

/-- What is generated for an element. -/
def plan : Plan :=
  target.plan config (s.stem config target) (Text.titleCase s.element.name)
    (s.element.fields config)

def writer (dryRun : Bool) : Writer :=
  ⟨Path.push output (s.stem config target), config.overwrite, dryRun⟩

/-- The report of a run that has dealt with all files. -/
def report (artifacts : List Artifact) : Report where
  target
  element := s.element.name
  directory := Path.push output (s.stem config target)
  fields := (s.element.fields config).length
  components := (s.plan config target).components
  columns := (s.plan config target).columns
  artifacts

@[simp] theorem directory_report (artifacts : List Artifact) :
    (s.report config target output artifacts).directory =
      Path.push output (s.stem config target) := by
  rw [report]

@[simp] theorem artifacts_report (artifacts : List Artifact) :
    (s.report config target output artifacts).artifacts = artifacts := by
  rw [report]

theorem report_with (artifacts others : List Artifact) :
    { s.report config target output artifacts with artifacts := others } =
      s.report config target output others := by
  dsimp only [report]

end Selection

namespace Model

variable {model : Model} {config : Config} {e : ModelError} {s : Selection}

theorem eq_unknownElement {name? : Option String} (h : model.select name? = .error e) :
    ∃ name, e = .unknownElement name := by
  unfold select at h
  split at h
  · cases h
  · rename_i name
    split at h
    · cases h
    · split at h
      · cases h
      · exact ⟨name, (Except.error.inj h).symm⟩

theorem generate_of_error (h : model.select config.element? = .error e)
    (target : Target) (output : String) (dryRun : Bool) (disk : Disk) :
    model.generate config target output dryRun disk = (disk, .error (.of (.model e))) := by
  rw [generate, h]

/-- A run lets its writer deal with the files that are planned. -/
theorem generate_of_select (h : model.select config.element? = .ok s)
    (target : Target) (output : String) (dryRun : Bool) (disk : Disk) :
    model.generate config target output dryRun disk =
      let progress := (s.writer config target output dryRun).writeAll disk
        (s.plan config target).drafts
      (progress.disk,
        match progress.failure with
        | some f => .error f
        | none => .ok (s.report config target output progress.artifacts)) := by
  simp only [generate, h]
  split <;> rename_i hfailure <;>
    · change Writer.Progress.failure (Writer.writeAll (s.writer config target output dryRun)
        disk (s.plan config target).drafts) = _ at hfailure
      rw [hfailure]
      rfl

/-- A run is the same on a file system that stands for another one. -/
theorem generate_map {σ τ : Type} [FileSystem σ] [FileSystem τ] {f : σ → τ}
    (h : FileSystem.Agrees f) (model : Model) (config : Config) (target : Target)
    (output : String) (dryRun : Bool) (disk : σ) :
    model.generate config target output dryRun (f disk) =
      (model.generate config target output dryRun disk).map f id := by
  rw [generate, generate]
  cases model.select config.element? with
  | error e => rfl
  | ok s =>
      dsimp only
      rw [Writer.writeAll_map h]
      dsimp only [Writer.Progress.map]
      split <;> rfl

/-- A run succeeds if the element exists and its writer does not fail. -/
theorem generate_eq_ok_iff {target : Target} {output : String} {dryRun : Bool}
    {disk after : Disk} {report : Report} :
    model.generate config target output dryRun disk = (after, .ok report) ↔
      ∃ s artifacts, model.select config.element? = .ok s ∧
        (s.writer config target output dryRun).writeAll disk
          (s.plan config target).drafts = ⟨after, artifacts, none⟩ ∧
        report = s.report config target output artifacts := by
  constructor
  · intro hrun
    cases hselect : model.select config.element? with
    | error e =>
        rw [generate_of_error hselect] at hrun
        cases hrun
    | ok s =>
        rw [generate_of_select hselect] at hrun
        cases hprogress : (s.writer config target output dryRun).writeAll disk
            (s.plan config target).drafts with
        | mk last artifacts failure? =>
            rw [hprogress] at hrun
            obtain ⟨rfl, hreport⟩ := Prod.mk.inj hrun
            cases failure? with
            | some f => cases hreport
            | none => exact ⟨s, artifacts, rfl, hprogress, (Except.ok.inj hreport).symm⟩
  · rintro ⟨s, artifacts, hselect, hprogress, rfl⟩
    rw [generate_of_select hselect, hprogress]

end Model

end AspectForms
