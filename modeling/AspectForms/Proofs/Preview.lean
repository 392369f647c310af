import AspectForms.Proofs.FreshRun
import AspectForms.Proofs.Generation
import AspectForms.Proofs.Recording

/-!
Dry runs.  Main statement: a dry run changes nothing, fails only for want of the element, and reports what
a real run would report, but that every file is planned.
-/

namespace AspectForms

namespace Writer

variable {w : Writer} {disk : Disk} {drafts : List Draft}

theorem writeAll_of_dryRun (hdry : w.dryRun = true) :
    w.writeAll disk drafts = ⟨disk, drafts.map fun d => ⟨d.path, .planned⟩, none⟩ := by
  induction drafts with
  | nil => rfl
  | cons draft drafts ih =>
      rw [writeAll_cons_of_ok (write_of_dryRun hdry disk draft), ih]
      rfl

theorem Deals.outcome_ne_planned {draft : Draft} {after : Disk} {outcome : Outcome}
    (hreal : w.dryRun = false) (h : Deals [] w disk draft (after, .ok outcome)) :
    outcome ≠ .planned := by
  cases h with
  | planned hdry => cases hreal.symm.trans hdry
  | kept _ hkeep hthere => exact nofun
  | put _ hadds hwrite houtcome =>
      rcases houtcome with ⟨rfl, _⟩ | ⟨rfl, _⟩
      · exact nofun
      · exact nofun

/-- A run that is not a dry one only plans nothing. -/
theorem outcome_ne_planned_of_writeAll (hreal : w.dryRun = false) :
    ∀ a ∈ (w.writeAll disk drafts).artifacts, a.outcome ≠ .planned := by
  induction drafts generalizing disk with
  | nil => exact nofun
  | cons draft drafts ih =>
      have hfirst := w.deals_write disk draft
      rw [writeAll]
      split
      · exact List.forall_mem_nil _
      · rename_i middle outcome hwrite
        rw [hwrite] at hfirst
        intro a ha
        rcases List.mem_cons.mp ha with rfl | ha
        · exact hfirst.outcome_ne_planned hreal
        · exact ih a ha

/-- A run fails for want of nothing but a file operation. -/
theorem cause_of_writeAll {f : Failure} (h : (w.writeAll disk drafts).failure = some f) :
    ∃ e, f.cause = .file e := by
  induction drafts generalizing disk with
  | nil => cases h
  | cons draft drafts ih =>
      have hfirst := w.deals_write disk draft
      rw [writeAll] at h
      split at h
      · rename_i middle g hwrite
        rw [hwrite] at hfirst
        obtain rfl := Option.some.inj h
        cases hfirst with
        | failed hreal hadds hcause => exact ⟨_, hcause⟩
        | stopped hreal hadds hn hwrite houtcome hcause => exact ⟨_, hcause⟩
      · exact ih h

end Writer

namespace Report

/-- Every file is written or skipped, if none is only planned. -/
theorem written_add_skipped {r : Report} (h : ∀ a ∈ r.artifacts, a.outcome ≠ .planned) :
    r.written + r.skipped = r.artifacts.length := by
  unfold written skipped count
  generalize r.artifacts = artifacts at h
  induction artifacts with
  | nil => rfl
  | cons a artifacts ih =>
      have hrest := ih fun b hb => h b (List.mem_cons_of_mem a hb)
      have ha := h a List.mem_cons_self
      cases houtcome : a.outcome with
      | planned => exact absurd houtcome ha
      | written => simp [houtcome] at hrest ⊢; omega
      | overwritten => simp [houtcome] at hrest ⊢; omega
      | skipped => simp [houtcome] at hrest ⊢; omega

/-- What a dry run reports of the same files. -/
def preview (r : Report) : Report :=
  { r with artifacts := r.artifacts.map fun a => ⟨a.path, .planned⟩ }

theorem planned_preview (r : Report) : r.preview.planned = r.artifacts.length := by
  unfold preview planned count
  generalize r.artifacts = artifacts
  induction artifacts with
  | nil => rfl
  | cons a artifacts ih => simpa using ih

end Report

theorem Failure.not_model_of_file {f : Failure} {e : FileError} (h : f.cause = .file e)
    (m : ModelError) : f ≠ .of (.model m) := by
  rintro rfl
  cases h

namespace Model

variable {model : Model} {config : Config} {s : Selection}

theorem generate_dry_of_select (h : model.select config.element? = .ok s)
    (target : Target) (output : String) (disk : Disk) :
    model.generate config target output true disk =
      (disk, .ok (s.report config target output
        ((s.plan config target).drafts.map fun d => ⟨d.path, .planned⟩))) := by
  have hdry : (s.writer config target output true).dryRun = true := rfl
  rw [generate_of_select h, Writer.writeAll_of_dryRun hdry]

/-- A run for an element that exists fails as its writer does. -/
theorem failure_of_select (h : model.select config.element? = .ok s)
    {target : Target} {output : String} {dryRun : Bool} {disk : Disk} {f : Failure}
    (hrun : (model.generate config target output dryRun disk).2 = .error f) :
    ((s.writer config target output dryRun).writeAll disk
      (s.plan config target).drafts).failure = some f := by
  rw [generate_of_select h] at hrun
  dsimp only at hrun
  split at hrun
  · rename_i hfailure
    exact hfailure.trans (congrArg some (Except.error.inj hrun))
  · cases hrun

/-- A run that succeeds is foreseen by a dry one. -/
theorem generate_dry_of_ok {target : Target} {output : String} {disk after : Disk}
    {report : Report}
    (hrun : model.generate config target output false disk = (after, .ok report)) :
    model.generate config target output true disk = (disk, .ok report.preview) ∧
      report.preview.planned = report.written + report.skipped := by
  obtain ⟨s, artifacts, hselect, hprogress, rfl⟩ := generate_eq_ok_iff.mp hrun
  constructor
  · rw [generate_dry_of_select hselect, Report.preview, s.report_with, s.artifacts_report,
      Writer.map_outcome (Writer.paths_of_writeAll hprogress)]
  · have houtcomes : ∀ a ∈ ((s.writer config target output false).writeAll disk
        (s.plan config target).drafts).artifacts, a.outcome ≠ .planned :=
      Writer.outcome_ne_planned_of_writeAll rfl
    rw [hprogress] at houtcomes
    rw [Report.planned_preview, Report.written_add_skipped houtcomes]

/-- A dry run changes nothing and fails only if there is no such element, which
is when a real run fails for want of one.  What a real run reports is foreseen,
file by file. -/
theorem generate_preview (model : Model) (config : Config) (target : Target)
    (output : String) (disk : Disk) :
    let dry := model.generate config target output true disk
    let real := model.generate config target output false disk
    dry.1 = disk ∧
      (∀ f, dry.2 = .error f → ∃ name, f = .of (.model (.unknownElement name))) ∧
      (∀ name, dry.2 = .error (.of (.model (.unknownElement name))) ↔
        real.2 = .error (.of (.model (.unknownElement name)))) ∧
      (∀ report, real.2 = .ok report → dry.2 = .ok report.preview ∧
        report.preview.planned = report.written + report.skipped) := by
  intro dry real
  cases hselect : model.select config.element? with
  | error e =>
      obtain ⟨name, rfl⟩ := eq_unknownElement hselect
      have hdry : dry = (disk, .error (.of (.model (.unknownElement name)))) :=
        generate_of_error hselect _ _ _ _
      have hreal : real = (disk, .error (.of (.model (.unknownElement name)))) :=
        generate_of_error hselect _ _ _ _
      rw [hdry, hreal]
      exact ⟨rfl, fun f hf => ⟨name, (Except.error.inj hf).symm⟩, fun _ => Iff.rfl, nofun⟩
  | ok s =>
      have hdry : dry = (disk, .ok _) := generate_dry_of_select hselect target output disk
      refine ⟨by rw [hdry], by simp [hdry], fun name => ?_, fun report hreport => ?_⟩
      · rw [hdry]
        refine ⟨nofun, fun hreal => ?_⟩
        -- with an element, the writer alone can fail
        obtain ⟨e, he⟩ := Writer.cause_of_writeAll (failure_of_select hselect hreal)
        exact absurd rfl (Failure.not_model_of_file he _)
      · have hrun : real = (real.1, .ok report) := by rw [← hreport]
        obtain ⟨hforeseen, hplanned⟩ := generate_dry_of_ok hrun
        exact ⟨congrArg Prod.snd hforeseen, hplanned⟩

end Model

namespace PreviewWitness

open FreshRunWitness

/-- How many files a run writes. -/
def written? (target : Target) : Option Nat :=
  ((model "low" "high").generate {} target "out" false disk).2.toOption.map Report.written

theorem generate_preview_of_table :
    ∃ after report,
      (model "low" "high").generate {} .table "out" false disk = (after, .ok report) ∧
      (model "low" "high").generate {} .table "out" true disk = (disk, .ok report.preview) ∧
      report.written = 2 ∧ report.preview.planned = report.written + report.skipped := by
  have hwritten : written? .table = some 2 := by decide +kernel
  unfold written? at hwritten
  obtain ⟨hdisk, _, _, hforeseen⟩ :=
    Model.generate_preview (model "low" "high") {} .table "out" disk
  cases hrun : (model "low" "high").generate {} .table "out" false disk with
  | mk after result =>
      rw [hrun] at hwritten hforeseen
      cases result with
      | error f => cases hwritten
      | ok report =>
          obtain ⟨hdry, hplanned⟩ := hforeseen report rfl
          exact ⟨after, report, rfl, Prod.ext hdisk hdry, Option.some.inj hwritten, hplanned⟩

end PreviewWitness

end AspectForms
