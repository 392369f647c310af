import AspectForms.Files.FaultyDisk
import AspectForms.Files.LinkedDisk
import AspectForms.Files.Writer

/-!
Writing on file systems of several kinds.  Main statement: where one file system stands for another and the
operations agree, a run of the writer on the one is a run on the other.  A plain disk stands for a faulty
disk without faults, and for a linked disk without links.
-/

namespace AspectForms

namespace FileSystem

variable {σ τ : Type} [FileSystem σ] [FileSystem τ] {f : σ → τ}

/-- The operations come to the same on a file system and on the one that stands for it. -/
structure Agrees (f : σ → τ) : Prop where
  «exists» : ∀ disk path, FileSystem.exists (f disk) path = FileSystem.exists disk path
  isDirectory : ∀ disk path, FileSystem.isDirectory (f disk) path = FileSystem.isDirectory disk path
  makeDirectory : ∀ disk path,
    FileSystem.makeDirectory (f disk) path = (FileSystem.makeDirectory disk path).map f id
  writeText : ∀ disk path text,
    FileSystem.writeText (f disk) path text = (FileSystem.writeText disk path text).map f id

namespace Agrees

theorem settle (h : Agrees f) (disk : σ) (path : String) :
    FileSystem.settle (f disk) path = (FileSystem.settle disk path).map f id := by
  rw [FileSystem.settle, FileSystem.settle, h.makeDirectory]
  rcases FileSystem.makeDirectory disk path with ⟨after, e | _⟩
  · simp [h.isDirectory]
  · rfl

theorem makeChain (h : Agrees f) (disk : σ) (paths : List String) :
    FileSystem.makeChain (f disk) paths = (FileSystem.makeChain disk paths).map f id := by
  induction paths generalizing disk with
  | nil => rfl
  | cons path above ih =>
      rw [FileSystem.makeChain, FileSystem.makeChain, h.makeDirectory]
      rcases FileSystem.makeDirectory disk path with ⟨after, e | _⟩
      · cases e with
        | notFound =>
            simp only [Prod.map, id_eq, ih]
            rcases FileSystem.makeChain after above with ⟨middle, e | _⟩
            · rfl
            · exact h.settle middle path
        | _ => simp [h.isDirectory]
      · rfl

theorem makeDirectories (h : Agrees f) (disk : σ) (path : String) :
    FileSystem.makeDirectories (f disk) path = (FileSystem.makeDirectories disk path).map f id :=
  h.makeChain disk (Path.prefixes path)

end Agrees

end FileSystem

namespace Writer

variable {σ τ : Type} [FileSystem σ] [FileSystem τ] {f : σ → τ}

theorem write_map (h : FileSystem.Agrees f) (w : Writer) (disk : σ) (draft : Draft) :
    w.write (f disk) draft = (w.write disk draft).map f id := by
  rw [write, write, h.exists]
  dsimp only
  split
  · rfl
  · split
    · rfl
    · rw [h.makeDirectories]
      rcases FileSystem.makeDirectories disk
        ((Path.parent? (Path.push w.root draft.path)).getD "") with ⟨middle, e | _⟩
      · rfl
      · simp only [Prod.map, id_eq, h.writeText]
        rcases FileSystem.writeText middle (Path.push w.root draft.path) draft.text with
          ⟨after, e | _⟩ <;> rfl

/-- The same progress on the file system that stands for this one. -/
def Progress.map (f : σ → τ) (p : Progress σ) : Progress τ := ⟨f p.disk, p.artifacts, p.failure⟩

/-- A run is the same on a file system that stands for another one. -/
theorem writeAll_map (h : FileSystem.Agrees f) (w : Writer) (disk : σ) (drafts : List Draft) :
    w.writeAll (f disk) drafts = (w.writeAll disk drafts).map f := by
  induction drafts generalizing disk with
  | nil => rfl
  | cons draft drafts ih =>
      rw [writeAll, writeAll, write_map h]
      rcases w.write disk draft with ⟨middle, g | outcome⟩
      · rfl
      · simp only [Prod.map, id_eq, ih]
        rfl

section First

variable {w : Writer} {disk middle : σ} {s : Session σ} {draft : Draft} {drafts : List Draft}
  {outcome : Outcome}

theorem writeAll_cons_of_ok (hwrite : w.write disk draft = (middle, .ok outcome)) :
    w.writeAll disk (draft :: drafts) =
      { w.writeAll middle drafts with
        artifacts := ⟨draft.path, outcome⟩ :: (w.writeAll middle drafts).artifacts } := by
  rw [writeAll, hwrite]

theorem writeAll_cons_of_error {g : Failure} (hwrite : w.write disk draft = (middle, .error g)) :
    w.writeAll disk (draft :: drafts) = ⟨middle, [], some g⟩ := by
  rw [writeAll, hwrite]

theorem record_of_ok (h : w.write s.disk draft = (middle, .ok outcome)) :
    w.record s draft = (⟨middle, s.artifacts ++ [⟨draft.path, outcome⟩]⟩, .ok outcome) := by
  rw [record, h]

theorem record_of_error {g : Failure} (h : w.write s.disk draft = (middle, .error g)) :
    w.record s draft = (⟨middle, s.artifacts⟩, .error g) := by
  rw [record, h]

/-- A dry run does nothing but plan. -/
theorem write_of_dryRun (hdry : w.dryRun = true) (disk : σ) (draft : Draft) :
    w.write disk draft = (disk, .ok .planned) := by
  simp [write, hdry]

end First

section Runs

variable {w : Writer} {disk : σ} {drafts : List Draft}

/-- The files that a run has dealt with are the first ones of all. -/
theorem paths_writeAll_prefix :
    (w.writeAll disk drafts).artifacts.map Artifact.path <+: drafts.map Draft.path := by
  induction drafts generalizing disk with
  | nil => exact List.prefix_refl _
  | cons draft drafts ih =>
      rw [writeAll]
      split
      · exact List.nil_prefix
      · exact (List.prefix_cons_inj draft.path).mpr ih

/-- A run without a failure has dealt with every file. -/
theorem paths_writeAll (h : (w.writeAll disk drafts).failure = none) :
    (w.writeAll disk drafts).artifacts.map Artifact.path = drafts.map Draft.path := by
  induction drafts generalizing disk with
  | nil => rfl
  | cons draft drafts ih =>
      rw [writeAll] at h ⊢
      split at h
      · cases h
      · rename_i after outcome hwrite
        exact congrArg (draft.path :: ·) (ih h)

theorem recordAll_append (w : Writer) (s : Session σ) (earlier later : List Draft) :
    w.recordAll s (earlier ++ later) = w.recordAll (w.recordAll s earlier) later :=
  List.foldl_append

theorem recordAll_of_dryRun (hdry : w.dryRun = true) (s : Session σ) (drafts : List Draft) :
    w.recordAll s drafts =
      ⟨s.disk, s.artifacts ++ drafts.map fun d => ⟨d.path, .planned⟩⟩ := by
  induction drafts generalizing s with
  | nil => simp [recordAll]
  | cons draft drafts ih =>
      rw [recordAll, List.foldl_cons, record_of_ok (write_of_dryRun hdry s.disk draft)]
      refine (ih _).trans ?_
      simp

end Runs

end Writer

namespace Disk

/-- A disk whose operations fail only if they must. -/
def faultless (disk : Disk) : FaultyDisk := ⟨disk, []⟩

/-- A disk without links. -/
def unlinked (disk : Disk) : LinkedDisk := ⟨disk, []⟩

variable {disk : Disk} {path : String}

theorem exists_eq (disk : Disk) (path : String) :
    FileSystem.exists disk path = disk.exists path := rfl

theorem makeDirectory_eq_attempt (disk : Disk) (path : String) :
    FileSystem.makeDirectory disk path = disk.attempt (disk.makeDirectory path) := rfl

theorem writeText_eq_attempt (disk : Disk) (path text : String) :
    FileSystem.writeText disk path text = disk.attempt (disk.writeFile path (.text text)) := rfl

theorem agrees_faultless : FileSystem.Agrees faultless where
  «exists» _ _ := rfl
  isDirectory _ _ := rfl
  makeDirectory _ _ := rfl
  writeText _ _ _ := rfl

theorem redirect?_nil (toEnd : Bool) (here : Location) (pieces : List String) :
    LinkedDisk.redirect? [] toEnd here pieces = none := by
  induction pieces generalizing here with
  | nil => rfl
  | cons piece rest ih => exact ih (next here piece)

/-- Without links every path stands for itself. -/
theorem plainPath_unlinked (disk : Disk) (toEnd : Bool) (path : String) :
    disk.unlinked.plainPath toEnd path = (disk.route path).map fun _ => path := by
  have hresolve : disk.unlinked.resolve toEnd (LinkedDisk.linkLimit + 1) path = .ok path := by
    rw [LinkedDisk.resolve, unlinked, redirect?_nil]
  rw [LinkedDisk.plainPath, hresolve]
  rfl

theorem exists_of_route {e : FileError} (h : disk.route path = .error e) :
    disk.exists path = false := by
  rw [«exists», resolve, h]
  rfl

theorem isDirectory_of_route {e : FileError} (h : disk.route path = .error e) :
    disk.isDirectory path = false := by
  rw [isDirectory, resolve, h]
  rfl

theorem onPlainPath_unlinked (disk : Disk) (toEnd : Bool) (path : String)
    (operation : String → Disk × Except FileError Unit)
    (hfails : ∀ e, disk.route path = .error e → operation path = (disk, .error e)) :
    disk.unlinked.onPlainPath toEnd path operation = (operation path).map unlinked id := by
  rw [LinkedDisk.onPlainPath, plainPath_unlinked]
  cases hroute : disk.route path with
  | error e =>
      rw [hfails e hroute]
      rfl
  | ok r => rfl

theorem agrees_unlinked : FileSystem.Agrees unlinked where
  «exists» disk path := by
    change (disk.unlinked.plainPath true path).toOption.any disk.exists = disk.exists path
    rw [plainPath_unlinked]
    cases hroute : disk.route path with
    | error e => exact (exists_of_route hroute).symm
    | ok r => rfl
  isDirectory disk path := by
    change (disk.unlinked.plainPath true path).toOption.any disk.isDirectory =
      disk.isDirectory path
    rw [plainPath_unlinked]
    cases hroute : disk.route path with
    | error e => exact (isDirectory_of_route hroute).symm
    | ok r => rfl
  makeDirectory disk path := by
    refine disk.onPlainPath_unlinked false path (FileSystem.makeDirectory disk) fun e hroute => ?_
    rw [makeDirectory_eq_attempt, makeDirectory, hroute]
    rfl
  writeText disk path text := by
    refine disk.onPlainPath_unlinked true path (FileSystem.writeText disk · text) fun e hroute => ?_
    rw [writeText_eq_attempt, writeFile, hroute]
    rfl

end Disk

end AspectForms
