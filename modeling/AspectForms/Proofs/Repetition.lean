import AspectForms.Proofs.FreshRun
import AspectForms.Proofs.Generation
import AspectForms.Proofs.Recording

/-!
Running twice.  Main statement: a run that has succeeded succeeds again with the same report but for the
outcomes, and leaves every file as it is.
-/

namespace AspectForms

namespace Disk

variable {disk middle after later : Disk} {path : String}

theorem isDirectory_iff :
    disk.isDirectory path = true ↔ ∃ r here, disk.route path = .ok r ∧
      disk.walk r.start r.pieces = .ok here ∧
      disk.kindAt? here = some .directory := by
  constructor
  · intro h
    unfold isDirectory at h
    split at h
    · rename_i here node hresolve
      obtain ⟨r, hroute, hwalk, hnode, _⟩ := resolve_eq_ok_iff.mp hresolve
      refine ⟨r, here, hroute, hwalk, ?_⟩
      rw [kindAt?, Tree.kindAt?, hnode, Option.map_some, Tree.isDirectory_iff.mp h]
    · cases h
  · rintro ⟨r, here, hroute, hwalk, hhere⟩
    obtain ⟨entries, hnode⟩ := kindAt?_eq_directory_iff.mp hhere
    have hresolve : disk.resolve path = .ok (here, .directory entries) :=
      resolve_eq_ok_iff.mpr ⟨r, hroute, hwalk, hnode, fun _ => rfl⟩
    rw [isDirectory, hresolve]
    rfl

theorem Extends.isDirectory (h : disk.Extends later)
    (hdirectory : disk.isDirectory path = true) : later.isDirectory path = true := by
  obtain ⟨r, here, hroute, hwalk, hhere⟩ := isDirectory_iff.mp hdirectory
  rw [← h.route] at hroute
  exact isDirectory_iff.mpr ⟨r, here, hroute, h.walk hwalk, h.directory here hhere⟩

theorem extends_of_makeDirectory (h : disk.makeDirectory path = .ok after) :
    disk.Extends after := by
  have hadds : disk.AddsDirectories after fun _ => True := makeDirectory_adds h trivial
  exact .of_adds hadds

theorem isDirectory_of_makeDirectory (h : disk.makeDirectory path = .ok after) :
    after.isDirectory path = true := by
  obtain ⟨hfree, hputs⟩ := makeDirectory_ok h
  have hextends : disk.Extends after := extends_of_makeDirectory h
  obtain ⟨r, here, name, hroute, hlast, _, _⟩ := makeDirectory_eq_ok_iff.mp h
  obtain ⟨hlocate, _⟩ := lastPiece_ok hroute hlast
  have hthere : after.kindAt? (here ++ [name]) = some .directory := by
    rw [hputs.kindAt?, hlocate, if_pos rfl]
  have hwalk := walk_of_lastPiece (hextends.lastPiece hlast) (by simp [hthere])
  rw [← hextends.route] at hroute
  exact isDirectory_iff.mpr ⟨r, _, hroute, hwalk, hthere⟩

theorem walk_append {here : Location} {xs ys : List String} :
    disk.walk here (xs ++ ys) = disk.walk here xs >>= (disk.walk · ys) := by
  induction xs generalizing here with
  | nil => rfl
  | cons x xs ih =>
      rw [List.cons_append, walk, walk]
      cases disk.step here x with
      | error e => rfl
      | ok next => exact ih

/-- The last piece of a route that leads to something names an entry that is
there, or none. -/
theorem exists_lastPiece_of_walk {r : Route} {there : Location}
    (hwalk : disk.walk r.start r.pieces = .ok there)
    (hthere : disk.kindAt? there ≠ none) :
    (∃ here, disk.lastPiece r = .ok (here, none)) ∨
      ∃ here name, disk.lastPiece r = .ok (here, some name) ∧
        disk.kindAt? (here ++ [name]) ≠ none := by
  rcases List.eq_nil_or_concat r.pieces with hnil | ⟨before, last, hpieces⟩
  · refine .inl ⟨r.start, ?_⟩
    rw [lastPiece, hnil]
    rfl
  · rw [List.concat_eq_append] at hpieces
    rw [hpieces, walk_append] at hwalk
    obtain ⟨here, hbefore, hrest⟩ := bind_eq_ok hwalk
    obtain ⟨place, hstep, hend⟩ := bind_eq_ok hrest
    rw [← Except.ok.inj hend] at hthere
    obtain ⟨hhere, hplace, hpiece⟩ := step_eq_ok_iff.mp hstep
    by_cases hdots : last = "." ∨ last = ".."
    · refine .inl ⟨place, ?_⟩
      rw [lastPiece, hpieces, List.reverse_append]
      simp [bind, Except.bind, pure, Except.pure, hbefore, hdots, hstep]
    · rw [not_or] at hdots
      rw [next, if_neg hdots.1, if_neg hdots.2] at hplace
      rcases hpiece with hdot | hup | ⟨hlimit, _⟩
      · exact absurd hdot hdots.1
      · exact absurd hup hdots.2
      · exact .inr ⟨here, last, lastPiece_eq_ok_iff.mpr
          ⟨before, hpieces, hbefore, hdots.1, hdots.2, hlimit, hhere⟩, hplace ▸ hthere⟩

/-- A directory that exists is not made. -/
theorem makeDirectory_of_isDirectory (h : disk.isDirectory path = true) :
    disk.makeDirectory path = .error .exists := by
  obtain ⟨r, here, hroute, hwalk, hhere⟩ := isDirectory_iff.mp h
  rw [makeDirectory, hroute]
  change (disk.lastPiece r >>= _) = _
  rcases exists_lastPiece_of_walk hwalk (by simp [hhere]) with
    ⟨above, hlast⟩ | ⟨above, name, hlast, hthere⟩
  · rw [hlast]
    rfl
  · have hsome : (disk.tree.find? (above ++ [name])).isSome = true := by
      rw [Option.isSome_iff_ne_none]
      intro hnone
      exact hthere (by rw [kindAt?, Tree.kindAt?, hnone]; rfl)
    rw [hlast]
    simp [bind, Except.bind, throw, throwThe, MonadExceptOf.throw, hsome]

/-- Where a directory has been made, or is there all the same, it exists. -/
theorem isDirectory_of_settle (h : FileSystem.settle disk path = (after, .ok ())) :
    after.isDirectory path = true := by
  rw [FileSystem.settle, makeDirectory_eq_attempt] at h
  cases hmake : disk.makeDirectory path with
  | ok made =>
      rw [hmake] at h
      obtain rfl := (Prod.mk.inj h).1
      exact isDirectory_of_makeDirectory hmake
  | error e =>
      rw [hmake] at h
      obtain ⟨rfl, hok⟩ := Prod.mk.inj h
      split at hok
      · assumption
      · cases hok

/-- Where the directory above a path is missing, it is made first. -/
theorem makeChain_of_notFound (h : disk.makeDirectory path = .error .notFound)
    (above : List String) :
    FileSystem.makeChain disk (path :: above) =
      match FileSystem.makeChain disk above with
      | (disk, .error e) => (disk, .error e)
      | (disk, .ok ()) => FileSystem.settle disk path := by
  rw [FileSystem.makeChain, makeDirectory_eq_attempt, h]
  dsimp only [attempt]
  rcases FileSystem.makeChain disk above with ⟨middle, e | _⟩ <;> rfl

theorem makeChain_of_ne_notFound {above : List String}
    (h : disk.makeDirectory path ≠ .error .notFound) :
    FileSystem.makeChain disk (path :: above) = FileSystem.settle disk path := by
  rw [FileSystem.makeChain, FileSystem.settle, makeDirectory_eq_attempt]
  cases hmake : disk.makeDirectory path with
  | ok made => rfl
  | error e => cases e <;> first | rfl | exact absurd hmake h

/-- Once directories have been made, the lowest of them exists. -/
theorem isDirectory_of_makeChain {above : List String}
    (h : FileSystem.makeChain disk (path :: above) = (after, .ok ())) :
    after.isDirectory path = true := by
  by_cases hmissing : disk.makeDirectory path = .error .notFound
  · rw [makeChain_of_notFound hmissing] at h
    split at h
    · cases (Prod.mk.inj h).2
    · exact isDirectory_of_settle h
  · rw [makeChain_of_ne_notFound hmissing] at h
    exact isDirectory_of_settle h

theorem settle_of_isDirectory (h : disk.isDirectory path = true) :
    FileSystem.settle disk path = (disk, .ok ()) := by
  rw [FileSystem.settle, makeDirectory_eq_attempt, makeDirectory_of_isDirectory h]
  exact congrArg (Prod.mk disk) (if_pos h)

theorem makeChain_of_isDirectory {above : List String} (h : disk.isDirectory path = true) :
    FileSystem.makeChain disk (path :: above) = (disk, .ok ()) := by
  rw [makeChain_of_ne_notFound (makeDirectory_of_isDirectory h ▸ nofun)]
  exact settle_of_isDirectory h

/-- Directories that have been made are there when they are asked for again,
whatever has been added to the file system. -/
theorem makeDirectories_again
    (h : FileSystem.makeDirectories disk path = (after, .ok ()))
    (hlater : after.Extends later) :
    FileSystem.makeDirectories later path = (later, .ok ()) := by
  unfold FileSystem.makeDirectories at h ⊢
  cases hpaths : Path.prefixes path with
  | nil => rfl
  | cons q above =>
      rw [hpaths] at h
      exact makeChain_of_isDirectory (hlater.isDirectory (isDirectory_of_makeChain h))

/-- A file that has been put can be replaced by another one, whatever has been
added to the file system. -/
theorem exists_writeFile_again {contents other : Contents}
    (h : disk.writeFile path contents = .ok after) (hlater : after.Extends later) :
    ∃ last, later.writeFile path other = .ok last := by
  have hextends := (extends_of_writeFile h).trans hlater
  obtain ⟨_, hputs⟩ := writeFile_ok h
  obtain ⟨r, here, name, hroute, hslash, hlast, _, _⟩ := writeFile_eq_ok_iff.mp h
  obtain ⟨hlocate, _⟩ := lastPiece_ok hroute hlast
  have hfile : after.kindAt? (here ++ [name]) = some (.file contents) := by
    rw [hputs.kindAt?, hlocate, if_pos rfl]
  obtain ⟨c, hc⟩ := hlater.file _ _ hfile
  rw [← hextends.route] at hroute
  exact ⟨_, writeFile_eq_ok_iff.mpr
    ⟨r, here, name, hroute, hslash, hextends.lastPiece hlast, by simp [hc], rfl⟩⟩

end Disk

namespace Writer

variable {w : Writer} {disk after later : Disk} {draft : Draft}
  {drafts : List Draft} {l : Location} {outcome : Outcome}

/-- What stands at a location when files have been put in their places one after
the other. -/
def overlay (w : Writer) (disk : Disk) (drafts : List Draft) (l : Location)
    (kind : Option NodeKind) : Option NodeKind :=
  drafts.foldl
    (fun kind d => if l = w.place disk d then some (.file (.text d.text)) else kind) kind

theorem overlay_cons (kind : Option NodeKind) :
    w.overlay disk (draft :: drafts) l kind =
      w.overlay disk drafts l
        (if l = w.place disk draft then some (.file (.text draft.text)) else kind) :=
  rfl

theorem overlay_of_working (h : after.working = disk.working)
    (kind : Option NodeKind) :
    w.overlay after drafts l kind = w.overlay disk drafts l kind := by
  have hplace : w.place after = w.place disk := by
    funext d
    exact Disk.locate_eq_of_working h _
  rw [overlay, hplace, overlay]

/-- Files leave what stands at a location, or they determine it. -/
theorem overlay_cases (w : Writer) (disk : Disk) (drafts : List Draft) (l : Location) :
    (∀ kind, w.overlay disk drafts l kind = kind) ∨
      ∃ last, ∀ kind, w.overlay disk drafts l kind = last := by
  induction drafts with
  | nil => exact .inl fun _ => rfl
  | cons draft drafts ih =>
      rcases ih with hleave | ⟨last, hlast⟩
      · by_cases hl : l = w.place disk draft
        · refine .inr ⟨some (.file (.text draft.text)), fun kind => ?_⟩
          rw [overlay_cons, hleave, if_pos hl]
        · refine .inl fun kind => ?_
          rw [overlay_cons, hleave, if_neg hl]
      · exact .inr ⟨last, fun kind => hlast _⟩

theorem overlay_overlay (kind : Option NodeKind) :
    w.overlay disk drafts l (w.overlay disk drafts l kind) =
      w.overlay disk drafts l kind := by
  rcases w.overlay_cases disk drafts l with hleave | ⟨last, hlast⟩
  · rw [hleave]
  · rw [hlast, hlast]

/-- A run that may overwrite files leaves the last one at each location, and
elsewhere what was there, if not a directory that has been made. -/
theorem exists_kindAt?_writeAll (hover : w.overwrite = true)
    (hreal : w.dryRun = false) (hok : (w.writeAll disk drafts).failure = none)
    (l : Location) :
    ∃ kind, (kind = disk.kindAt? l ∨
        disk.kindAt? l = none ∧ kind = some .directory) ∧
      (w.writeAll disk drafts).disk.kindAt? l = w.overlay disk drafts l kind := by
  induction drafts generalizing disk with
  | nil => exact ⟨_, .inl rfl, rfl⟩
  | cons draft drafts ih =>
      have hdeals := w.deals_write disk draft
      cases hwrite : w.write disk draft with
      | mk middle result =>
          rw [hwrite] at hdeals
          cases hdeals with
          | planned hdry => cases hreal.symm.trans hdry
          | kept _ hkeep _ => cases hover.symm.trans hkeep
          | failed _ hadds hcause =>
              rw [writeAll, hwrite] at hok
              cases hok
          | stopped _ hadds hn =>
              cases hn
          | put _ hadds hput houtcome =>
              rw [writeAll_cons_of_ok hwrite] at hok ⊢
              have hworking : middle.working = disk.working :=
                (Disk.writeFile_ok hput).2.working.trans hadds.working
              obtain ⟨hhere, helsewhere⟩ := Deals.kindAt?_of_put hadds hput
              obtain ⟨kind, hkind, hafter⟩ := ih hok
              rw [overlay_of_working hworking] at hafter
              by_cases hl : l = w.place disk draft
              · subst hl
                refine ⟨_, .inl rfl, ?_⟩
                rw [overlay_cons, if_pos rfl, ← hhere]
                rcases hkind with rfl | ⟨hnone, _⟩
                · exact hafter
                · cases hnone.symm.trans hhere
              · refine ⟨kind, ?_, ?_⟩
                · rw [helsewhere l hl] at hkind
                  rcases hadds.kindAt?_cases l with hsame | ⟨hnone, hmade⟩
                  · rw [hsame] at hkind
                    exact hkind
                  · rcases hkind with rfl | ⟨hno, _⟩
                    · exact .inr ⟨hnone, hmade⟩
                    · cases hno.symm.trans hmade
                · rw [overlay_cons, if_neg hl]
                  exact hafter

/-- The file is overwritten when it is dealt with again, whatever has been added
to the file system. -/
def Overwritable (w : Writer) (disk : Disk) (draft : Draft) : Prop :=
  ∀ later, disk.Extends later → ∃ after,
    w.write later draft = (after, .ok .overwritten) ∧
      later.Puts after (w.place later draft) (.file (.text draft.text))

theorem Overwritable.of_extends (h : w.Overwritable disk draft)
    (hlater : disk.Extends later) : w.Overwritable later draft :=
  fun _ hextends => h _ (hlater.trans hextends)

theorem write_of_exists (hreal : w.dryRun = false)
    (hthere : disk.exists (Path.push w.root draft.path) = true) :
    w.overwrite = false ∧ w.write disk draft = (disk, .ok .skipped) ∨
      w.overwrite = true ∧ ∀ last,
        FileSystem.makeDirectories disk
            ((Path.parent? (Path.push w.root draft.path)).getD "") = (disk, .ok ()) →
        disk.writeFile (Path.push w.root draft.path) (.text draft.text) = .ok last →
          w.write disk draft = (last, .ok .overwritten) := by
  cases hover : w.overwrite with
  | false => exact .inl ⟨rfl, by simp [write_disk, hreal, hover, hthere]⟩
  | true =>
      refine .inr ⟨rfl, fun last hmake hwrite => ?_⟩
      simp [write_disk, hreal, hover, hthere, hmake, hwrite]

/-- A writer that may overwrite files puts every file that it deals with. -/
theorem exists_put_of_write (hover : w.overwrite = true) (hreal : w.dryRun = false)
    (h : w.write disk draft = (after, .ok outcome)) :
    ∃ middle, FileSystem.makeDirectories disk
        ((Path.parent? (Path.push w.root draft.path)).getD "") = (middle, .ok ()) ∧
      middle.writeFile (Path.push w.root draft.path) (.text draft.text) = .ok after := by
  simp only [write_disk, hover, hreal, Bool.not_true, Bool.and_false, Bool.false_eq_true,
    if_false] at h
  split at h
  · cases (Prod.mk.inj h).2
  · rename_i middle hmake
    split at h
    · cases (Prod.mk.inj h).2
    · rename_i last hwrite
      exact ⟨middle, hmake, (Prod.mk.inj h).1 ▸ hwrite⟩

theorem overwritable_of_write (hover : w.overwrite = true) (hreal : w.dryRun = false)
    (h : w.write disk draft = (after, .ok outcome)) : w.Overwritable after draft := by
  intro later hlater
  have hdeals := w.deals_write disk draft
  rw [h] at hdeals
  have hthere := hlater.exists (hdeals.exists_file hreal)
  obtain ⟨middle, hmake, hwrite⟩ := exists_put_of_write hover hreal h
  have hmade := Disk.makeDirectories_again hmake
    ((Disk.extends_of_writeFile hwrite).trans hlater)
  obtain ⟨last, hlast⟩ := Disk.exists_writeFile_again hwrite hlater
  rcases write_of_exists hreal hthere with ⟨hkeep, _⟩ | ⟨_, hagain⟩
  · cases hover.symm.trans hkeep
  · exact ⟨last, hagain last hmade hlast, (Disk.writeFile_ok hlast).2⟩

/-- The files of a run that has succeeded can all be overwritten. -/
theorem overwritable_of_writeAll (hover : w.overwrite = true)
    (hreal : w.dryRun = false) (hok : (w.writeAll disk drafts).failure = none) :
    ∀ d ∈ drafts, w.Overwritable (w.writeAll disk drafts).disk d := by
  induction drafts generalizing disk with
  | nil => exact nofun
  | cons draft drafts ih =>
      cases hwrite : w.write disk draft with
      | mk middle result =>
          cases result with
          | error f =>
              rw [writeAll, hwrite] at hok
              cases hok
          | ok outcome =>
              rw [writeAll_cons_of_ok hwrite] at hok ⊢
              intro d hd
              rcases List.mem_cons.mp hd with rfl | hd
              · exact (overwritable_of_write hover hreal hwrite).of_extends
                  (w.extends_writeAll middle drafts)
              · exact ih hok d hd

/-- Files that can be overwritten are, and nothing else happens. -/
theorem writeAll_of_overwritable (h : ∀ d ∈ drafts, w.Overwritable disk d) :
    (w.writeAll disk drafts).failure = none ∧
      (w.writeAll disk drafts).artifacts =
        drafts.map (fun d => ⟨d.path, .overwritten⟩) ∧
      ∀ l, (w.writeAll disk drafts).disk.kindAt? l =
        w.overlay disk drafts l (disk.kindAt? l) := by
  induction drafts generalizing disk with
  | nil => exact ⟨rfl, rfl, fun _ => rfl⟩
  | cons draft drafts ih =>
      obtain ⟨middle, hwrite, hputs⟩ := h draft List.mem_cons_self disk (.refl disk)
      have hextends := (w.deals_write disk draft).extends_disk
      rw [hwrite] at hextends
      obtain ⟨hok, hartifacts, hdisk⟩ := ih fun d hd =>
        (h d (List.mem_cons_of_mem draft hd)).of_extends hextends
      rw [writeAll_cons_of_ok hwrite]
      refine ⟨hok, congrArg _ hartifacts, fun l => ?_⟩
      rw [overlay_cons, ← hputs.kindAt?, ← overlay_of_working hputs.working]
      exact hdisk l

/-- Files that exist are skipped if they may not be overwritten. -/
theorem writeAll_of_exists (hkeep : w.overwrite = false) (hreal : w.dryRun = false)
    (h : ∀ d ∈ drafts, disk.exists (Path.push w.root d.path) = true) :
    w.writeAll disk drafts =
      ⟨disk, drafts.map fun d => ⟨d.path, .skipped⟩, none⟩ := by
  induction drafts with
  | nil => rfl
  | cons draft drafts ih =>
      have hwrite : w.write disk draft = (disk, .ok .skipped) := by
        rcases write_of_exists hreal (h draft List.mem_cons_self) with
          ⟨_, hskip⟩ | ⟨hover, _⟩
        · exact hskip
        · cases hkeep.symm.trans hover
      rw [writeAll_cons_of_ok hwrite, ih fun d hd => h d (List.mem_cons_of_mem draft hd)]
      rfl

/-- What happens to a file that exists. -/
def again (w : Writer) : Outcome := if w.overwrite then .overwritten else .skipped

/-- A run that has succeeded succeeds again, with the same files in the same
order, and leaves everything as it is. -/
theorem writeAll_again (hreal : w.dryRun = false)
    (hok : (w.writeAll disk drafts).failure = none) :
    ∃ last, last.working = (w.writeAll disk drafts).disk.working ∧
      (∀ l, last.kindAt? l = (w.writeAll disk drafts).disk.kindAt? l) ∧
      w.writeAll (w.writeAll disk drafts).disk drafts =
        ⟨last, drafts.map fun d => ⟨d.path, w.again⟩, none⟩ := by
  cases hover : w.overwrite with
  | false =>
      have hthere : ∀ d ∈ drafts, (w.writeAll disk drafts).disk.exists
          (Path.push w.root d.path) = true := by
        intro d hd
        have hmem := List.mem_map_of_mem (f := Draft.path) hd
        rw [← paths_writeAll hok] at hmem
        obtain ⟨a, ha, hpath⟩ := List.mem_map.mp hmem
        exact hpath ▸ exists_of_writeAll hreal a ha
      refine ⟨_, rfl, fun _ => rfl, ?_⟩
      rw [writeAll_of_exists hover hreal hthere, again, hover]
      rfl
  | true =>
      obtain ⟨hagain, hartifacts, hdisk⟩ :=
        writeAll_of_overwritable (overwritable_of_writeAll hover hreal hok)
      generalize hfirst : (w.writeAll disk drafts).disk = first at *
      refine ⟨(w.writeAll first drafts).disk,
        (w.extends_writeAll first drafts).working, fun l => ?_, ?_⟩
      · have hworking := (w.extends_writeAll disk drafts).working
        obtain ⟨kind, _, hkind⟩ := exists_kindAt?_writeAll hover hreal hok l
        rw [hfirst] at hworking hkind
        rw [hdisk, overlay_of_working hworking, hkind, overlay_overlay]
      · rw [← hagain, again, if_pos hover, ← hartifacts]

end Writer

namespace RepetitionWitness

open FreshRunWitness

/-- Files may be overwritten. -/
def config : Config := { overwrite := true }

/-- The paths of the files of a run in which two components have one place. -/
def paths? : Option (List String) :=
  ((model "fooBar" "foo_bar").generate config .form "out" false disk).2.toOption.map
    fun report => report.artifacts.map Artifact.path

end RepetitionWitness

end AspectForms
