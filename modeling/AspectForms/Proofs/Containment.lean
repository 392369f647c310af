import AspectForms.Proofs.FreshRun
import AspectForms.Proofs.Generation
import AspectForms.Proofs.Recording

/-!
Where a run may write.  Main statement: whatever the names in a model and its configuration, every file of
a run stands below the output.
-/

namespace AspectForms

/-- The steps to the files of a target, in the order in which they are dealt
with. -/
def Target.steps (target : Target) (stem : String) (fields : List Field) :
    List (List String) :=
  match target with
  | form => Form.steps stem fields
  | table | card => (placeOf [] stem).steps

namespace Target

variable {target : Target} {stem : String} {fields : List Field}
  (hfields : ∀ f, Field.OccursIn fields f → Text.PathSafe f.dashed)
  (hstem : Text.PathSafe stem)
include hstem hfields

theorem paths_plan (config : Config) (title : String) :
    (target.plan config stem title fields).drafts.map Draft.path =
      (target.steps stem fields).map Path.through := by
  cases target with
  | form => exact Form.paths_drafts hfields hstem
  | table => exact Component.paths_drafts rfl nofun (not_mem_slash hstem)
  | card => exact Component.paths_drafts rfl nofun (not_mem_slash hstem)

theorem leadsToFile_of_mem_steps : ∀ s ∈ target.steps stem fields, LeadsToFile s := by
  have hplace : (placeOf [] stem).Safe := safe_placeOf nofun hstem
  cases target with
  | form => exact Form.leadsToFile_of_mem_steps hfields hstem
  | table => exact Place.leadsToFile_steps hplace
  | card => exact Place.leadsToFile_steps hplace

end Target

/-- A text that is safe in paths is a name or nothing. -/
theorem exists_names_of_pathSafe {stem : String} (h : Text.PathSafe stem) :
    ∃ names : List String, names.length ≤ 1 ∧ (∀ n ∈ names, Path.IsName n) ∧
      stem = Path.through names := by
  by_cases hempty : stem = ""
  · exact ⟨[], by decide, nofun, hempty⟩
  · have hname : Path.IsName stem :=
      Path.isName_of_not_mem hempty (not_mem_slash h) fun hmem => (h _ hmem).2.2.1 rfl
    refine ⟨[stem], Nat.le_refl 1, ?_, String.ofList_toList.symm⟩
    intro n hn
    exact List.mem_singleton.mp hn ▸ hname

namespace Selection

variable (s : Selection) (config : Config) (target : Target) (output : String)

/-- The way from the output to the directory of a run. -/
theorem exists_directory : ∃ names : List String, names.length ≤ 1 ∧
    (∀ n ∈ names, Path.IsName n) ∧ s.stem config target = Path.through names :=
  exists_names_of_pathSafe (pathSafe_stem config s.element.name target)

theorem exists_steps {d : Draft} (hd : d ∈ (s.plan config target).drafts) :
    ∃ steps, LeadsToFile steps ∧ d.path = Path.through steps := by
  have hfields : ∀ f, Field.OccursIn (s.element.fields config) f →
      Text.PathSafe f.dashed := fun f => pathSafe_dashed
  have hstem := pathSafe_stem config s.element.name target
  have hpath : d.path ∈ (s.plan config target).drafts.map Draft.path :=
    List.mem_map_of_mem hd
  rw [plan, stem, Target.paths_plan hfields hstem] at hpath
  obtain ⟨steps, hsteps, heq⟩ := List.mem_map.mp hpath
  exact ⟨steps, Target.leadsToFile_of_mem_steps hfields hstem steps hsteps, heq.symm⟩

/-- Every file of a run has its place below the output. -/
theorem exists_place {dryRun : Bool} (disk : Disk) {d : Draft}
    (hd : d ∈ (s.plan config target).drafts) :
    ∃ names, names ≠ [] ∧ (∀ n ∈ names, Path.IsName n) ∧
      (s.writer config target output dryRun).place disk d = disk.locate output ++ names := by
  obtain ⟨above, _, habove, hstem⟩ := s.exists_directory config target
  obtain ⟨steps, hsteps, hpath⟩ := s.exists_steps config target hd
  refine ⟨above ++ steps, ?_, ?_, ?_⟩
  · obtain ⟨directories, file, rfl, _⟩ := hsteps
    simp
  · intro n hn
    rcases List.mem_append.mp hn with hn | hn
    · exact habove n hn
    · exact hsteps.isName n hn
  · rw [Writer.place, writer, hpath, hstem, Disk.locate_push_through hsteps.isName,
      Disk.locate_push_through habove, List.append_assoc]

/-- What the generator makes of names has no meaning in a path. -/
structure Contained : Prop where
  /-- The name of the component holds nothing that means something in a path. -/
  stem : Text.PathSafe (s.stem config target)
  /-- Nor does that of a field, at any depth. -/
  dashed : ∀ f, Field.OccursIn (s.element.fields config) f → Text.PathSafe f.dashed
  /-- The directory of a run is the output or named in it. -/
  directory : ∃ names : List String, names.length ≤ 1 ∧
    Path.components (Path.push output (s.stem config target)) =
      Path.components output ++ names.map .normal
  /-- The path of a file is relative, and leads through names only. -/
  drafts : ∀ d ∈ (s.plan config target).drafts, Path.isAbsolute d.path = false ∧
    ∃ names, names ≠ [] ∧ Path.components d.path = names.map .normal

theorem contained : s.Contained config target output where
  stem := pathSafe_stem config s.element.name target
  dashed _ := pathSafe_dashed
  directory := by
    obtain ⟨names, hone, hnames, hstem⟩ := s.exists_directory config target
    refine ⟨names, hone, ?_⟩
    rw [hstem, Path.components_push_through hnames]
  drafts d hd := by
    obtain ⟨steps, hsteps, hpath⟩ := s.exists_steps config target hd
    rw [hpath, Path.components_through hsteps.isName]
    refine ⟨Path.isAbsolute_through hsteps.plain, steps, ?_, rfl⟩
    obtain ⟨directories, file, rfl, _⟩ := hsteps
    simp

end Selection

namespace Model

variable {model : Model} {config : Config} {target : Target} {output : String}
  {dryRun : Bool} {disk after : Disk} {s : Selection} {report : Report}

/-- The report of a run names the directory and the files that were planned. -/
theorem paths_generate (hselect : model.select config.element? = .ok s)
    (hrun : model.generate config target output dryRun disk = (after, .ok report)) :
    report.directory = Path.push output (s.stem config target) ∧
      report.artifacts.map Artifact.path =
        (s.plan config target).drafts.map Draft.path := by
  obtain ⟨other, artifacts, hother, hprogress, rfl⟩ := generate_eq_ok_iff.mp hrun
  obtain rfl := Except.ok.inj (hselect.symm.trans hother)
  rw [s.directory_report, s.artifacts_report]
  exact ⟨rfl, Writer.paths_of_writeAll hprogress⟩

/-- A run changes files only below the output. -/
theorem files_outside_generate (model : Model) (config : Config) (target : Target)
    (output : String) (dryRun : Bool) (disk : Disk) (l : Location) :
    (∀ c, (model.generate config target output dryRun disk).1.kindAt? l =
        some (.file c) ↔ disk.kindAt? l = some (.file c)) ∨
      ∃ names, names ≠ [] ∧ (∀ n ∈ names, Path.IsName n) ∧
        l = disk.locate output ++ names := by
  cases hselect : model.select config.element? with
  | error e =>
      rw [generate_of_error hselect]
      exact .inl fun _ => Iff.rfl
  | ok s =>
      by_cases hplace : ∃ d ∈ (s.plan config target).drafts,
          l = (s.writer config target output dryRun).place disk d
      · obtain ⟨d, hd, rfl⟩ := hplace
        exact .inr (s.exists_place config target output disk hd)
      · rw [generate_of_select hselect]
        refine .inl (Writer.files_elsewhere_writeAll ?_)
        intro d hd heq
        exact hplace ⟨d, hd, heq⟩

/-- No names, however they are written, make a run leave its output: what it
derives from names is safe in paths, the files that it deals with go below the
directory of the run, which is the output or named in it, and whether the run
succeeds or not, no file outside the output changes. -/
theorem generate_contained (model : Model) (config : Config) (target : Target)
    (output : String) (dryRun : Bool) (disk : Disk) :
    let run := model.generate config target output dryRun disk
    (∀ s, model.select config.element? = .ok s → s.Contained config target output ∧
      ∀ report, run.2 = .ok report →
        report.directory = Path.push output (s.stem config target) ∧
        report.artifacts.map Artifact.path =
          (s.plan config target).drafts.map Draft.path) ∧
    ∀ l, (∀ c, run.1.kindAt? l = some (.file c) ↔ disk.kindAt? l = some (.file c)) ∨
      ∃ names, names ≠ [] ∧ (∀ n ∈ names, Path.IsName n) ∧
        l = disk.locate output ++ names := by
  intro run
  constructor
  · intro s hselect
    refine ⟨s.contained config target output, fun report hreport => ?_⟩
    have hrun : run = (run.1, .ok report) := by rw [← hreport]
    exact paths_generate hselect hrun
  · exact files_outside_generate model config target output dryRun disk

end Model

namespace ContainmentWitness

open FreshRunWitness (text disk)

/-- Names that mean something in paths. -/
def model : Model :=
  ⟨⟨"../..", none,
    [text (.scalar "http://www.w3.org/2001/XMLSchema#string") "../../etc/passwd",
      text (.scalar "http://www.w3.org/2001/XMLSchema#string") "\x00"]⟩, []⟩

/-- The component is to be named by dots. -/
def config : Config := { name := "/.." }

/-- The directory of a run and the paths of its files. -/
def paths? : Option (String × List String) :=
  (model.generate config .form "out" false disk).2.toOption.map fun report =>
    (report.directory, report.artifacts.map Artifact.path)

theorem generate_contained_of_dots :
    ∃ after report,
      model.generate config .form "out" false disk = (after, .ok report) ∧
      report.directory = "out/" ∧
      report.artifacts.map Artifact.path = ["shared/form-validators.ts",
        "etc-passwd/etc-passwd.component.ts", "etc-passwd/etc-passwd.component.html",
        ".component.ts", ".component.html", ".component.ts", ".component.html"] ∧
      ∀ l, (∀ c, after.kindAt? l = some (.file c) ↔ disk.kindAt? l = some (.file c)) ∨
        ["out"] <+: l := by
  have hpaths : paths? = some ("out/", ["shared/form-validators.ts",
      "etc-passwd/etc-passwd.component.ts", "etc-passwd/etc-passwd.component.html",
      ".component.ts", ".component.html", ".component.ts", ".component.html"]) := by
    decide +kernel
  have hplace : disk.locate "out" = ["out"] := by decide +kernel
  unfold paths? at hpaths
  obtain ⟨_, hfiles⟩ := Model.generate_contained model config .form "out" false disk
  cases hrun : model.generate config .form "out" false disk with
  | mk after result =>
      rw [hrun] at hpaths hfiles
      cases result with
      | error f => cases hpaths
      | ok report =>
          obtain ⟨hdirectory, hlist⟩ := Prod.mk.inj (Option.some.inj hpaths)
          refine ⟨after, report, rfl, hdirectory, hlist, fun l => ?_⟩
          rcases hfiles l with hsame | ⟨names, _, _, rfl⟩
          · exact .inl hsame
          · exact .inr (hplace ▸ List.prefix_append _ names)

end ContainmentWitness

end AspectForms
