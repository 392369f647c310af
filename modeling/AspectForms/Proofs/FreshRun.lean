import AspectForms.Lint
import AspectForms.Proofs.Persistence
import AspectForms.Proofs.Placement

/-!
Runs into a directory that does not exist.  Main statement: every file of a form is then written, and
under a path of its own, exactly if the components of the form have places of their own.
-/

namespace AspectForms

namespace Disk

/-- A path does not lead through a place below the one that it leads to, as
`a/b/../../a` does. -/
def Direct (disk : Disk) (path : String) : Prop :=
  ∀ front, front <+: Path.pieces path →
    disk.locate path <+: follow (disk.start path) front →
    follow (disk.start path) front = disk.locate path

/-- Below a place nothing stands but on the way to some files. -/
def HoldsOnly (disk : Disk) (place : Location) (files : List (List String)) :
    Prop :=
  ∀ l, place <+: l → disk.kindAt? l ≠ none → ∃ steps ∈ files, l <+: place ++ steps

variable {disk after : Disk} {root : String}

theorem Direct.of_working (h : disk.Direct root)
    (hworking : after.working = disk.working) : after.Direct root := by
  have hstart : after.start root = disk.start root := by
    rw [start, start, hworking]
  intro front hfront
  rw [locate_eq_of_working hworking, hstart]
  exact h front hfront

/-- Where nothing stands, there is nothing below either. -/
theorem holdsOnly_nil {place : Location} (h : disk.kindAt? place = none) :
    disk.HoldsOnly place [] := by
  intro l hbelow hl
  exact absurd h (kindAt?_ne_none_above hbelow hl)

/-- A directory that is made for a file and stands below the root stands on the
way to the file. -/
theorem locate_prefix_of_above {steps : List String} (hsteps : LeadsToFile steps)
    (hdirect : disk.Direct root) {q : String}
    (hq : q ∈ Path.prefixes
      ((Path.parent? (Path.push root (Path.through steps))).getD ""))
    (hbelow : disk.locate root <+: disk.locate q) :
    disk.locate q <+: disk.locate root ++ steps := by
  obtain ⟨hpieces, habsolute⟩ := Path.pieces_of_mem_prefixes_parent hq
  have hstart : disk.start q = disk.start root := by
    rw [start, habsolute, ← start]
    exact start_push_through hsteps.isName
  have hlocate : disk.locate q = follow (disk.start root) (Path.pieces q) := by
    rw [locate, hstart]
  rw [pieces_push_through hsteps.isName] at hpieces
  rw [hlocate] at hbelow ⊢
  -- the directory is at or above the root, or between the root and the file
  rcases List.prefix_or_prefix_of_prefix hpieces (List.prefix_append _ _) with
    hfront | ⟨rest, hrest⟩
  · rw [hdirect _ hfront hbelow]
    exact List.prefix_append _ _
  · rw [← hrest] at hpieces ⊢
    have hle : rest <+: steps := (List.prefix_append_right_inj _).mp hpieces
    have hnames : ∀ n ∈ rest, Path.IsName n := fun n hn =>
      hsteps.isName n (hle.subset hn)
    rw [follow_append, follow_names hnames]
    exact (List.prefix_append_right_inj _).mpr hle

namespace HoldsOnly

variable {place : Location} {files : List (List String)}
  (h : disk.HoldsOnly place files) (steps : List String)
include h

theorem addsDirectories {places : Location → Prop}
    (hadds : disk.AddsDirectories after places)
    (hplaces : ∀ l, place <+: l → places l → l <+: place ++ steps) :
    after.HoldsOnly place (steps :: files) := by
  intro l hbelow hl
  by_cases hnone : disk.kindAt? l = none
  · rcases hadds.news l hnone with hno | ⟨_, hplace⟩
    · exact absurd hno hl
    · exact ⟨steps, List.mem_cons_self, hplaces l hbelow hplace⟩
  · obtain ⟨other, hother, hle⟩ := h l hbelow hnone
    exact ⟨other, List.mem_cons_of_mem steps hother, hle⟩

theorem puts {kind : NodeKind} (hmem : steps ∈ files)
    (hputs : disk.Puts after (place ++ steps) kind) :
    after.HoldsOnly place files := by
  intro l hbelow hl
  by_cases heq : l = place ++ steps
  · exact ⟨steps, hmem, heq ▸ List.prefix_refl _⟩
  · rw [hputs.kindAt?, if_neg heq] at hl
    exact h l hbelow hl

/-- There is nothing yet where a new file goes. -/
theorem not_exists {root : String} (hroot : disk.locate root = place)
    (hsteps : LeadsToFile steps) (hfiles : ∀ s ∈ files, LeadsToFile s)
    (hnew : steps ∉ files) :
    disk.exists (Path.push root (Path.through steps)) = false := by
  cases hthere : disk.exists (Path.push root (Path.through steps)) with
  | false => rfl
  | true =>
      have hsome := kindAt?_of_exists hthere
      rw [locate_push_through hsteps.isName, hroot] at hsome
      obtain ⟨other, hother, hle⟩ := h _ (List.prefix_append _ _) hsome
      have hsame := hsteps.eq_of_prefix (hfiles other hother)
        ((List.prefix_append_right_inj _).mp hle)
      exact absurd (hsame ▸ hother) hnew

end HoldsOnly

end Disk

namespace Writer

variable {w : Writer} {disk after : Disk} {steps : List String}
  {files : List (List String)}

/-- A new file is written, and nothing else is put below the root but the
directories on the way to it. -/
theorem write_fresh (hkeep : w.overwrite = false) (hreal : w.dryRun = false)
    (hdirect : disk.Direct w.root)
    (hholds : disk.HoldsOnly (disk.locate w.root) files)
    (hsteps : LeadsToFile steps) (hfiles : ∀ s ∈ files, LeadsToFile s)
    (hnew : steps ∉ files) {text : String} {outcome : Outcome}
    (h : w.write disk ⟨Path.through steps, text⟩ = (after, .ok outcome)) :
    outcome = .written ∧ after.working = disk.working ∧
      after.HoldsOnly (disk.locate w.root) (steps :: files) := by
  have hvacant := hholds.not_exists steps rfl hsteps hfiles hnew
  simp only [write_disk, hvacant, hkeep, hreal, Bool.false_eq_true, if_false,
    Bool.false_and] at h
  generalize hparent : (Path.parent?
    (Path.push w.root (Path.through steps))).getD "" = parent at h
  split at h
  · cases h
  · rename_i middle hmake
    split at h
    · cases h
    · rename_i written hwrite
      obtain ⟨hafter, houtcome⟩ := Prod.mk.inj h
      subst hafter
      have hadds := Disk.adds_of_makeDirectories hmake
      obtain ⟨_, hputs⟩ := Disk.writeFile_ok hwrite
      rw [Disk.locate_eq_of_working hadds.working,
        Disk.locate_push_through hsteps.isName] at hputs
      refine ⟨(Except.ok.inj houtcome).symm,
        hputs.working.trans hadds.working, ?_⟩
      -- first the directories on the way are added, then the file is put
      have hmiddle := hholds.addsDirectories steps hadds ?_
      · exact hmiddle.puts steps List.mem_cons_self hputs
      · rintro l hbelow ⟨q, hq, rfl⟩
        exact Disk.locate_prefix_of_above hsteps hdirect (hparent ▸ hq) hbelow

/-- Distinct new files are all written, up to the first failure. -/
theorem writeAll_fresh (hkeep : w.overwrite = false) (hreal : w.dryRun = false)
    {drafts : List Draft} {news : List (List String)}
    (hpaths : drafts.map Draft.path = news.map Path.through)
    (hdirect : disk.Direct w.root)
    (hholds : disk.HoldsOnly (disk.locate w.root) files)
    (hnews : ∀ s ∈ news, LeadsToFile s) (hfiles : ∀ s ∈ files, LeadsToFile s)
    (hnodup : news.Nodup) (hdisjoint : List.Disjoint news files) :
    ∀ a ∈ (w.writeAll disk drafts).artifacts, a.outcome = .written := by
  induction drafts generalizing disk news files with
  | nil => exact nofun
  | cons draft drafts ih =>
      cases news with
      | nil => cases hpaths
      | cons steps news =>
          obtain ⟨hpath, hrest⟩ := List.cons.inj hpaths
          obtain ⟨hnotin, hnodup⟩ := List.nodup_cons.mp hnodup
          obtain ⟨hnew, hdisjoint⟩ := List.disjoint_cons_left.mp hdisjoint
          have hsteps := hnews steps List.mem_cons_self
          rw [writeAll]
          split
          · exact List.forall_mem_nil _
          · rename_i after outcome hwrite
            have hdraft : draft = ⟨Path.through steps, draft.text⟩ := by
              rw [← hpath]
            rw [hdraft] at hwrite
            obtain ⟨houtcome, hworking, hafter⟩ :=
              write_fresh hkeep hreal hdirect hholds hsteps hfiles hnew hwrite
            intro a ha
            rcases List.mem_cons.mp ha with rfl | ha
            · exact houtcome
            · rw [← Disk.locate_eq_of_working hworking] at hafter
              refine ih hrest (hdirect.of_working hworking) hafter ?_ ?_ hnodup ?_
                a ha
              · exact fun s hs => hnews s (List.mem_cons_of_mem steps hs)
              · intro s hs
                rcases List.mem_cons.mp hs with rfl | hs
                · exact hsteps
                · exact hfiles s hs
              · exact List.disjoint_cons_right.mpr ⟨hnotin, hdisjoint⟩

end Writer

/-- Nothing stands where a path leads, and the path does not lead through a
place below that. -/
structure Disk.Lacks (disk : Disk) (path : String) : Prop where
  free : disk.kindAt? (disk.locate path) = none
  direct : disk.Direct path

theorem nodup_through_iff {files : List (List String)}
    (h : ∀ s ∈ files, LeadsToFile s) :
    (files.map Path.through).Nodup ↔ files.Nodup :=
  Path.nodup_map_through_iff fun s hs => (h s hs).plain

/-- A path that never goes up is direct. -/
theorem Disk.direct_of_not_parent {disk : Disk} {path : String}
    (h : ".." ∉ Path.pieces path) : disk.Direct path := by
  rintro front ⟨back, hback⟩ hbelow
  have hlocate : disk.locate path =
      Disk.follow (Disk.follow (disk.start path) front) back := by
    rw [Disk.locate, ← hback, Disk.follow_append]
  have hno : ".." ∉ back := by
    intro hmem
    exact h (hback ▸ List.mem_append_right front hmem)
  have hle : Disk.follow (disk.start path) front <+: _ := Disk.prefix_follow hno
  rw [← hlocate] at hle
  exact hle.eq_of_length_le hbelow.length_le

/-- In a run of a form into a directory that does not exist, which may not
overwrite files and does not fail, the paths are distinct and every file is
written exactly if no two components have the same place. -/
theorem Model.generate_form_all_written_iff {model : Model} {config : Config}
    {output : String} {disk after : Disk} {selection : Selection}
    {report : Report} (hselect : model.select config.element? = .ok selection)
    (hkeep : config.overwrite = false)
    (hlacks : disk.Lacks
      (Path.push output (config.stem selection.element.name .form)))
    (hrun : model.generate config .form output false disk = (after, .ok report)) :
    ((report.artifacts.map Artifact.path).Nodup ∧
        ∀ a ∈ report.artifacts, a.outcome = .written) ↔
      (Form.places (config.stem selection.element.name .form)
        (selection.element.fields config)).Nodup := by
  have hfields : ∀ f, Field.OccursIn (selection.element.fields config) f →
      Text.PathSafe f.dashed := fun f => pathSafe_dashed
  have hstem := pathSafe_stem config selection.element.name .form
  simp only [generate, hselect, Target.plan] at hrun
  generalize config.stem selection.element.name .form = stem at *
  generalize selection.element.fields config = fields at *
  have hfiles := Form.leadsToFile_of_mem_steps hfields hstem
  split at hrun
  · cases hrun
  · rename_i hsuccess
    obtain rfl := Except.ok.inj (Prod.mk.inj hrun).2
    rw [Writer.paths_writeAll hsuccess, Form.paths_drafts hfields hstem,
      nodup_through_iff hfiles, Form.nodup_steps_iff, and_iff_left_iff_imp]
    intro hnodup
    exact Writer.writeAll_fresh hkeep rfl (Form.paths_drafts hfields hstem)
      hlacks.direct (Disk.holdsOnly_nil hlacks.free) hfiles nofun
      (Form.nodup_steps_iff.mpr hnodup) (List.disjoint_nil_right _)

namespace FreshRunWitness

def text {τ : Type} (type : τ) (name : String) : Property τ :=
  ⟨name, none, false, none, .scalar "Text" (some type) none⟩

/-- Two text properties. -/
def document (first second : String) : Document where
  aspect := ⟨"Reading", none,
    [text (.scalar "xsd:string") first, text (.scalar "xsd:string") second]⟩
  entities := []

def model (first second : String) : Model :=
  ⟨⟨"Reading", none,
    [text (.scalar "http://www.w3.org/2001/XMLSchema#string") first,
      text (.scalar "http://www.w3.org/2001/XMLSchema#string") second]⟩, []⟩

/-- A file system with nothing in it. -/
def disk : Disk := ⟨.directory [], []⟩

theorem resolve_reading (first second : String) :
    (document first second).resolve = .ok (model first second) := by
  with_unfolding_all rfl

theorem lacks_directory : disk.Lacks "out/reading-form" :=
  ⟨by decide +kernel, Disk.direct_of_not_parent (by decide +kernel)⟩

/-- What became of the files of a run. -/
def artifacts? (first second : String) : Option (List Artifact) :=
  ((model first second).generate {} .form "out" false disk).2.toOption.map
    Report.artifacts

theorem run_of_artifacts? {first second : String} {artifacts : List Artifact}
    (h : artifacts? first second = some artifacts) :
    ∃ after report, (model first second).generate {} .form "out" false disk =
        (after, .ok report) ∧ report.artifacts = artifacts := by
  unfold artifacts? at h
  cases hrun : (model first second).generate {} .form "out" false disk with
  | mk after result =>
      rw [hrun] at h
      cases result with
      | error f => cases h
      | ok report => exact ⟨after, report, rfl, Option.some.inj h⟩

theorem all_written_iff_of_reading :
    disk.Lacks "out/reading-form" ∧ ∃ after report,
      (model "low" "high").generate {} .form "out" false disk =
        (after, .ok report) ∧
      (((report.artifacts.map Artifact.path).Nodup ∧
          ∀ a ∈ report.artifacts, a.outcome = .written) ↔
        (Form.places "reading-form"
          ((model "low" "high").aspect.fields {})).Nodup) := by
  have hsome : (artifacts? "low" "high").isSome = true := by decide +kernel
  obtain ⟨artifacts, hartifacts⟩ := Option.isSome_iff_exists.mp hsome
  obtain ⟨after, report, hrun, _⟩ := run_of_artifacts? hartifacts
  have hselect : (model "low" "high").select ({} : Config).element? =
      .ok (.aspect (model "low" "high").aspect) := rfl
  have hstem : ({} : Config).stem "Reading" .form = "reading-form" := by
    decide +kernel
  have hlacks : disk.Lacks
      (Path.push "out" (({} : Config).stem "Reading" .form)) := by
    rw [hstem]
    exact lacks_directory
  have hiff := Model.generate_form_all_written_iff hselect rfl hlacks hrun
  refine ⟨lacks_directory, after, report, hrun, ?_⟩
  rw [← hstem]
  exact hiff

/-- Lint finds nothing where two names have one spelling in kebab case, and the
files of the second one are skipped. -/
theorem same_spelling_skipped :
    (document "fooBar" "foo_bar").resolve = .ok (model "fooBar" "foo_bar") ∧
      (model "fooBar" "foo_bar").lint.isEmpty = true ∧
      disk.Lacks "out/reading-form" ∧ ∃ after report,
        (model "fooBar" "foo_bar").generate {} .form "out" false disk =
          (after, .ok report) ∧
        ¬((report.artifacts.map Artifact.path).Nodup ∧
          ∀ a ∈ report.artifacts, a.outcome = .written) := by
  have hartifacts : artifacts? "fooBar" "foo_bar" =
      some [⟨"shared/form-validators.ts", .written⟩,
        ⟨"foo-bar/foo-bar.component.ts", .written⟩,
        ⟨"foo-bar/foo-bar.component.html", .written⟩,
        ⟨"foo-bar/foo-bar.component.ts", .skipped⟩,
        ⟨"foo-bar/foo-bar.component.html", .skipped⟩,
        ⟨"reading-form.component.ts", .written⟩,
        ⟨"reading-form.component.html", .written⟩] := by
    decide +kernel
  obtain ⟨after, report, hrun, hreport⟩ := run_of_artifacts? hartifacts
  refine ⟨resolve_reading _ _, by decide +kernel, lacks_directory, after,
    report, hrun, ?_⟩
  rw [hreport]
  decide

end FreshRunWitness

end AspectForms
