import AspectForms.Proofs.Disk

/-!
What stays while files are written, whatever faults strike.  Main statements: at every moment of a run that is
not a dry one each file that it has dealt with exists, and at the path of each file that it has written or
overwritten the text of a file of the run is read, or there is a beginning of the one at which the run has
failed.
-/

namespace AspectForms

namespace Disk

/-- Directories are still directories, and files are still files, with whatever
they hold. -/
structure Extends (before after : Disk) : Prop where
  working : after.working = before.working
  directory : ∀ l, before.kindAt? l = some .directory →
    after.kindAt? l = some .directory
  file : ∀ l c, before.kindAt? l = some (.file c) →
    ∃ d, after.kindAt? l = some (.file d)

namespace Extends

variable {before middle after : Disk}

theorem refl (disk : Disk) : disk.Extends disk where
  working := rfl
  directory _ h := h
  file _ c h := ⟨c, h⟩

theorem trans (h : before.Extends middle) (h' : middle.Extends after) :
    before.Extends after where
  working := h'.working.trans h.working
  directory l hl := h'.directory l (h.directory l hl)
  file l c hl := by
    obtain ⟨d, hd⟩ := h.file l c hl
    exact h'.file l d hd

theorem of_adds {places : Location → Prop}
    (h : before.AddsDirectories after places) : before.Extends after where
  working := h.working
  directory l hl := (h.keeps l (by simp [hl])).trans hl
  file l c hl := ⟨c, (h.keeps l (by simp [hl])).trans hl⟩

theorem of_puts {place : Location} {contents : Contents}
    (hfree : before.kindAt? place ≠ some .directory)
    (h : before.Puts after place (.file contents)) : before.Extends after where
  working := h.working
  directory l hl := by
    rw [h.kindAt?, if_neg]
    · exact hl
    · rintro rfl
      exact hfree hl
  file l c hl := by
    rw [h.kindAt?]
    split
    · exact ⟨contents, rfl⟩
    · exact ⟨c, hl⟩

theorem kindAt?_ne_none (h : before.Extends after) {l : Location}
    (hl : before.kindAt? l ≠ none) : after.kindAt? l ≠ none := by
  cases hkind : before.kindAt? l with
  | none => exact absurd hkind hl
  | some kind =>
      cases kind with
      | directory =>
          simp [h.directory l hkind]
      | file c =>
          obtain ⟨d, hd⟩ := h.file l c hkind
          simp [hd]

end Extends

variable {disk before after : Disk} {path : String}

theorem Extends.step (h : before.Extends after) {here there : Location}
    {piece : String} (hstep : before.step here piece = .ok there) :
    after.step here piece = .ok there := by
  obtain ⟨hhere, hthere, hpiece⟩ := step_eq_ok_iff.mp hstep
  refine step_eq_ok_iff.mpr ⟨h.directory here hhere, hthere, ?_⟩
  rcases hpiece with hdot | hdots | ⟨hlimit, hentry⟩
  · exact .inl hdot
  · exact .inr (.inl hdots)
  · exact .inr (.inr ⟨hlimit, h.kindAt?_ne_none hentry⟩)

theorem Extends.walk (h : before.Extends after) {here there : Location}
    {pieces : List String} (hwalk : before.walk here pieces = .ok there) :
    after.walk here pieces = .ok there := by
  induction pieces generalizing here with
  | nil => exact hwalk
  | cons piece pieces ih =>
      obtain ⟨middle, hstep, hrest⟩ := bind_eq_ok hwalk
      rw [Disk.walk, h.step hstep]
      exact ih hrest

theorem Extends.route (h : before.Extends after) (path : String) :
    after.route path = before.route path :=
  route_eq_of_working h.working path

/-- What exists at a path still does when the file system has grown. -/
theorem Extends.exists (h : before.Extends after)
    (hexists : before.exists path = true) : after.exists path = true := by
  obtain ⟨r, here, kind, hroute, hwalk, hkind, hslash⟩ := exists_iff.mp hexists
  rw [← h.route] at hroute
  cases kind with
  | directory =>
      exact exists_iff.mpr
        ⟨r, here, _, hroute, h.walk hwalk, h.directory here hkind, fun _ => rfl⟩
  | file c =>
      obtain ⟨d, hd⟩ := h.file here c hkind
      refine exists_iff.mpr ⟨r, here, _, hroute, h.walk hwalk, hd, ?_⟩
      intro hends
      cases hslash hends

theorem walk_concat {start here there : Location} {pieces : List String}
    {piece : String} (hwalk : disk.walk start pieces = .ok here)
    (hstep : disk.step here piece = .ok there) :
    disk.walk start (pieces ++ [piece]) = .ok there := by
  induction pieces generalizing start with
  | nil =>
      obtain rfl := Except.ok.inj hwalk
      rw [List.nil_append, Disk.walk, hstep]
      rfl
  | cons first pieces ih =>
      obtain ⟨middle, hfirst, hrest⟩ := bind_eq_ok hwalk
      rw [List.cons_append, Disk.walk, hfirst]
      exact ih hrest

theorem extends_of_writeFile {contents : Contents}
    (h : disk.writeFile path contents = .ok after) : disk.Extends after :=
  .of_puts (writeFile_ok h).1 (writeFile_ok h).2

theorem Extends.lastPiece (h : before.Extends after) {r : Route} {here : Location}
    {name : String} (hlast : before.lastPiece r = .ok (here, some name)) :
    after.lastPiece r = .ok (here, some name) := by
  obtain ⟨front, hpieces, hwalk, hdot, hdots, hlimit, hhere⟩ :=
    lastPiece_eq_ok_iff.mp hlast
  exact lastPiece_eq_ok_iff.mpr ⟨front, hpieces, h.walk hwalk, hdot, hdots, hlimit,
    h.directory here hhere⟩

/-- A route leads to the entry that its last piece names, if that is there. -/
theorem walk_of_lastPiece {r : Route} {here : Location} {name : String}
    (hlast : disk.lastPiece r = .ok (here, some name))
    (hthere : disk.kindAt? (here ++ [name]) ≠ none) :
    disk.walk r.start r.pieces = .ok (here ++ [name]) := by
  obtain ⟨front, hpieces, hwalk, hdot, hdots, hlimit, hhere⟩ :=
    lastPiece_eq_ok_iff.mp hlast
  have hstep : disk.step here name = .ok (here ++ [name]) := by
    refine step_eq_ok_iff.mpr ⟨hhere, ?_, .inr (.inr ⟨hlimit, hthere⟩)⟩
    rw [next, if_neg hdot, if_neg hdots]
  rw [hpieces]
  exact walk_concat hwalk hstep

/-- A text that has been written is read at its path. -/
theorem readText_of_writeFile {text : String}
    (h : disk.writeFile path (.text text) = .ok after) : after.readText path = .ok text := by
  have hextends := extends_of_writeFile h
  obtain ⟨_, hputs⟩ := writeFile_ok h
  obtain ⟨r, here, name, hroute, hslash, hlast, _, _⟩ := writeFile_eq_ok_iff.mp h
  obtain ⟨hlocate, _⟩ := lastPiece_ok hroute hlast
  have hfile : after.kindAt? (here ++ [name]) = some (.file (.text text)) := by
    rw [hputs.kindAt?, hlocate, if_pos rfl]
  have hwalk := walk_of_lastPiece (hextends.lastPiece hlast) (by simp [hfile])
  rw [← hextends.route] at hroute
  exact readText_eq_ok_iff.mpr ⟨r, here ++ [name], hroute, hwalk, hfile, hslash⟩

theorem exists_of_readText {text : String} (h : disk.readText path = .ok text) :
    disk.exists path = true := by
  obtain ⟨r, here, hroute, hwalk, hkind, hslash⟩ := readText_eq_ok_iff.mp h
  exact exists_iff.mpr ⟨r, here, _, hroute, hwalk, hkind, by simp [hslash]⟩

theorem kindAt?_of_readText {text : String} (h : disk.readText path = .ok text) :
    disk.kindAt? (disk.locate path) = some (.file (.text text)) := by
  obtain ⟨r, here, hroute, hwalk, hkind, _⟩ := readText_eq_ok_iff.mp h
  rw [locate_of_walk hroute hwalk, hkind]

/-- Where a text was read, the one that stands there later is read. -/
theorem Extends.readText (h : before.Extends after) {old text : String}
    (hread : before.readText path = .ok old)
    (hkind : after.kindAt? (before.locate path) = some (.file (.text text))) :
    after.readText path = .ok text := by
  obtain ⟨r, here, hroute, hwalk, _, hslash⟩ := readText_eq_ok_iff.mp hread
  rw [locate_of_walk hroute hwalk] at hkind
  rw [← h.route] at hroute
  exact readText_eq_ok_iff.mpr ⟨r, here, hroute, h.walk hwalk, hkind, hslash⟩

end Disk

namespace FaultyDisk

variable {s t : FaultyDisk} {path text : String}

theorem stops_subset (h : t.faults <:+ s.faults) : t.stops ⊆ s.stops := by
  intro n hn
  obtain ⟨fault, hfault, heq⟩ := List.mem_filterMap.mp hn
  exact List.mem_filterMap.mpr ⟨fault, h.subset hfault, heq⟩

/-- A write succeeds on the disk, or fails without a change, or fails when the file holds a beginning of
the text. -/
theorem writeText_cases (s : FaultyDisk) (path text : String) :
    (∃ after, s.disk.writeFile path (.text text) = .ok after ∧
        FileSystem.writeText s path text = (⟨after, s.faults.tail⟩, .ok ())) ∨
      (∃ e, FileSystem.writeText s path text = (⟨s.disk, s.faults.tail⟩, .error e)) ∨
      ∃ n ∈ s.stops, ∃ after e, s.disk.writeFile path (.beginning n text) = .ok after ∧
        FileSystem.writeText s path text = (⟨after, s.faults.tail⟩, .error e) := by
  change (∃ after, _ ∧ s.writeText path text = _) ∨ (∃ e, s.writeText path text = _) ∨
    ∃ n ∈ s.stops, ∃ after e, _ ∧ s.writeText path text = _
  rw [writeText]
  cases hfault : s.faults.head?.join with
  | none =>
      rw [Disk.writeText_eq_attempt]
      cases hwrite : s.disk.writeFile path (.text text) with
      | ok after => exact .inl ⟨after, rfl, rfl⟩
      | error e => exact .inr (.inl ⟨e, rfl⟩)
  | some fault =>
      obtain ⟨error, written?⟩ := fault
      cases written? with
      | none => exact .inr (.inl ⟨error, rfl⟩)
      | some n =>
          have hstop : n ∈ s.stops := by
            refine List.mem_filterMap.mpr ⟨some ⟨error, some n⟩, ?_, rfl⟩
            exact List.mem_of_head? (Option.join_eq_some_iff.mp hfault)
          cases hwrite : s.disk.writeFile path (.beginning n text) with
          | ok after => exact .inr (.inr ⟨n, hstop, after, error, hwrite, by simp [hwrite]⟩)
          | error e => exact .inr (.inl ⟨e, by simp [hwrite]⟩)

end FaultyDisk

namespace Writer

variable {w : Writer} {stops : List Nat} {disk middle after : Disk} {draft : Draft}
  {drafts : List Draft} {path : String}

/-- The place that a file goes to. -/
def place (w : Writer) (disk : Disk) (draft : Draft) : Location :=
  disk.locate (Path.push w.root draft.path)

/-- The outcome of a file that is put tells whether something was there, and
only a writer that may overwrite puts a file where something is. -/
def Admits (w : Writer) (disk : Disk) (draft : Draft) (outcome : Outcome) : Prop :=
  outcome = .written ∧ disk.exists (Path.push w.root draft.path) = false ∨
    outcome = .overwritten ∧ disk.exists (Path.push w.root draft.path) = true ∧
      w.overwrite = true

/-- What dealing with one file comes to: nothing in a dry run or where a file is
kept, at most some directories where it fails, a beginning of the text where the
writing stops, and else the text at its path. -/
inductive Deals (stops : List Nat) (w : Writer) (disk : Disk) (draft : Draft) :
    Disk × Except Failure Outcome → Prop
  | planned (hdry : w.dryRun = true) : Deals stops w disk draft (disk, .ok .planned)
  | kept (hreal : w.dryRun = false) (hkeep : w.overwrite = false)
      (hthere : disk.exists (Path.push w.root draft.path) = true) :
      Deals stops w disk draft (disk, .ok .skipped)
  | failed (hreal : w.dryRun = false) {after : Disk} {places : Location → Prop}
      (hadds : disk.AddsDirectories after places) {f : Failure} {e : FileError}
      (hcause : f.cause = .file e) : Deals stops w disk draft (after, .error f)
  | stopped (hreal : w.dryRun = false) {middle after : Disk} {places : Location → Prop}
      (hadds : disk.AddsDirectories middle places) {n : Nat} (hn : n ∈ stops)
      (hwrite : middle.writeFile (Path.push w.root draft.path)
        (.beginning n draft.text) = .ok after)
      {outcome : Outcome} (houtcome : w.Admits disk draft outcome) {f : Failure}
      {e : FileError} (hcause : f.cause = .file e) :
      Deals stops w disk draft (after, .error f)
  | put (hreal : w.dryRun = false) {middle after : Disk} {places : Location → Prop}
      (hadds : disk.AddsDirectories middle places)
      (hwrite : middle.writeFile (Path.push w.root draft.path) (.text draft.text) =
        .ok after)
      {outcome : Outcome} (houtcome : w.Admits disk draft outcome) :
      Deals stops w disk draft (after, .ok outcome)

theorem admits_of_put
    (hput : ¬(disk.exists (Path.push w.root draft.path) && !w.overwrite) = true) :
    w.Admits disk draft
      (if disk.exists (Path.push w.root draft.path) then .overwritten else .written) := by
  cases hthere : disk.exists (Path.push w.root draft.path) with
  | false => exact .inl ⟨rfl, hthere⟩
  | true =>
      rw [hthere] at hput
      exact .inr ⟨rfl, hthere, by simpa using hput⟩

/-- Whatever faults strike, dealing with one file comes to one of these. -/
theorem deals_write_faulty (w : Writer) (s : FaultyDisk) (draft : Draft) :
    Deals s.stops w s.disk draft ((w.write s draft).1.disk, (w.write s draft).2) ∧
      (w.write s draft).1.faults <:+ s.faults := by
  have hway := s.makeChain_adds
    (Path.prefixes ((Path.parent? (Path.push w.root draft.path)).getD ""))
  rw [← FileSystem.makeDirectories] at hway
  rw [write]
  dsimp only
  split
  · rename_i hdry
    exact ⟨.planned hdry, List.suffix_refl _⟩
  · rename_i hreal
    rw [Bool.not_eq_true] at hreal
    split
    · rename_i hpresent
      obtain ⟨hthere, hkeep⟩ := (Bool.and_eq_true _ _).mp hpresent
      exact ⟨.kept hreal (by simpa using hkeep) hthere, List.suffix_refl _⟩
    · rename_i hput
      have hadmits := admits_of_put hput
      split
      · rename_i middle e hmake
        rw [hmake] at hway
        exact ⟨.failed hreal hway.adds rfl, hway.faults⟩
      · rename_i middle hmake
        rw [hmake] at hway
        have hfaults := (List.tail_suffix _).trans hway.faults
        rcases middle.writeText_cases (Path.push w.root draft.path) draft.text with
          ⟨after, hwrite, heq⟩ | ⟨e, heq⟩ | ⟨n, hn, after, e, hwrite, heq⟩
        · rw [heq]
          exact ⟨.put hreal hway.adds hwrite hadmits, hfaults⟩
        · rw [heq]
          exact ⟨.failed hreal hway.adds rfl, hfaults⟩
        · rw [heq]
          exact ⟨.stopped hreal hway.adds (FaultyDisk.stops_subset hway.faults hn) hwrite
            hadmits rfl, hfaults⟩

theorem deals_write (w : Writer) (disk : Disk) (draft : Draft) :
    Deals [] w disk draft (w.write disk draft) := by
  have hdeals := (w.deals_write_faulty disk.faultless draft).1
  rw [write_map Disk.agrees_faultless] at hdeals
  exact hdeals

/-- Dealing with one file on a disk without faults. -/
theorem write_disk (w : Writer) (disk : Disk) (draft : Draft) :
    w.write disk draft =
      let path := Path.push w.root draft.path
      let parent := (Path.parent? path).getD ""
      if w.dryRun then (disk, .ok .planned)
      else if disk.exists path && !w.overwrite then (disk, .ok .skipped)
      else
        match FileSystem.makeDirectories disk parent with
        | (disk, .error e) =>
          (disk, .error ((Failure.of (.file e)).within ("Failed to create directory: " ++ parent)))
        | (middle, .ok ()) =>
          match middle.writeFile path (.text draft.text) with
          | .error e =>
            (middle, .error ((Failure.of (.file e)).within ("Failed to write artifact: " ++ path)))
          | .ok after => (after, .ok (if disk.exists path then .overwritten else .written)) := by
  rw [write, Disk.exists_eq]
  dsimp only
  split
  · rfl
  · split
    · rfl
    · rcases FileSystem.makeDirectories disk
        ((Path.parent? (Path.push w.root draft.path)).getD "") with ⟨middle, e | _⟩
      · rfl
      · dsimp only
        rw [Disk.writeText_eq_attempt]
        cases middle.writeFile (Path.push w.root draft.path) (.text draft.text) <;> rfl

namespace Deals

variable {result : Disk × Except Failure Outcome}

/-- Dealing with one file takes nothing away, whether it succeeds or not. -/
theorem extends_disk (h : Deals stops w disk draft result) : disk.Extends result.1 := by
  cases h with
  | planned hdry => exact .refl disk
  | kept hreal hkeep hthere => exact .refl disk
  | failed hreal hadds hcause => exact .of_adds hadds
  | stopped hreal hadds hn hwrite houtcome hcause =>
      exact (Disk.Extends.of_adds hadds).trans (Disk.extends_of_writeFile hwrite)
  | put hreal hadds hwrite houtcome =>
      exact (Disk.Extends.of_adds hadds).trans (Disk.extends_of_writeFile hwrite)

/-- A file that has been dealt with for real exists. -/
theorem exists_file {outcome : Outcome} (hreal : w.dryRun = false)
    (h : Deals stops w disk draft (after, .ok outcome)) :
    after.exists (Path.push w.root draft.path) = true := by
  cases h with
  | planned hdry => cases hreal.symm.trans hdry
  | kept _ hkeep hthere => exact hthere
  | put _ hadds hwrite houtcome =>
      exact Disk.exists_of_readText (Disk.readText_of_writeFile hwrite)

/-- A file that has been written or overwritten has its text. -/
theorem readText {outcome : Outcome}
    (hwritten : outcome = .written ∨ outcome = .overwritten)
    (h : Deals stops w disk draft (after, .ok outcome)) :
    after.readText (Path.push w.root draft.path) = .ok draft.text := by
  cases h with
  | planned hdry => simp at hwritten
  | kept hreal hkeep hthere => simp at hwritten
  | put hreal hadds hwrite houtcome => exact Disk.readText_of_writeFile hwrite

/-- A file is put in its place, and all others stay. -/
theorem kindAt?_of_put {places : Location → Prop} {contents : Contents}
    (hadds : disk.AddsDirectories middle places)
    (hwrite : middle.writeFile (Path.push w.root draft.path) contents = .ok after) :
    after.kindAt? (w.place disk draft) = some (.file contents) ∧
      ∀ l ≠ w.place disk draft, after.kindAt? l = middle.kindAt? l := by
  obtain ⟨_, hputs⟩ := Disk.writeFile_ok hwrite
  rw [Disk.locate_eq_of_working hadds.working] at hputs
  refine ⟨(hputs.kindAt? _).trans (if_pos rfl), ?_⟩
  intro l hl
  exact (hputs.kindAt? l).trans (if_neg hl)

/-- What was read at a path still is, unless the file dealt with leads to the
same place: then its text is read there now, or the writing has stopped at a
beginning of it. -/
theorem readText_cases (h : Deals stops w disk draft result) {old : String}
    (hread : disk.readText path = .ok old) :
    result.1.readText path = .ok old ∨
      w.place disk draft = disk.locate path ∧
        ((∃ outcome, result.2 = .ok outcome) ∧ result.1.readText path = .ok draft.text ∨
          (∃ f, result.2 = .error f) ∧ ∃ n ∈ stops,
            result.1.kindAt? (disk.locate path) = some (.file (.beginning n draft.text))) := by
  have hextends := h.extends_disk
  have hold := Disk.kindAt?_of_readText hread
  -- a file that is put leads to the same place or leaves the path alone
  have hput {middle after : Disk} {places : Location → Prop} {contents : Contents}
      (hafter : disk.Extends after) (hadds : disk.AddsDirectories middle places)
      (hwrite : middle.writeFile (Path.push w.root draft.path) contents = .ok after) :
      after.readText path = .ok old ∨
        w.place disk draft = disk.locate path ∧
          after.kindAt? (disk.locate path) = some (.file contents) := by
    obtain ⟨hhere, helsewhere⟩ := kindAt?_of_put hadds hwrite
    by_cases hsame : disk.locate path = w.place disk draft
    · exact .inr ⟨hsame.symm, hsame ▸ hhere⟩
    · have hkept := hadds.keeps (disk.locate path) (by simp [hold])
      exact .inl (hafter.readText hread ((helsewhere _ hsame).trans (hkept.trans hold)))
  cases h with
  | planned hdry => exact .inl hread
  | kept hreal hkeep hthere => exact .inl hread
  | failed hreal hadds hcause =>
      have hkept := hadds.keeps (disk.locate path) (by simp [hold])
      exact .inl (hextends.readText hread (hkept.trans hold))
  | stopped hreal hadds hn hwrite houtcome hcause =>
      rcases hput hextends hadds hwrite with hstill | ⟨hsame, hhere⟩
      · exact .inl hstill
      · exact .inr ⟨hsame, .inr ⟨⟨_, rfl⟩, _, hn, hhere⟩⟩
  | put hreal hadds hwrite houtcome =>
      rcases hput hextends hadds hwrite with hstill | ⟨hsame, hhere⟩
      · exact .inl hstill
      · exact .inr ⟨hsame, .inl ⟨⟨_, rfl⟩, hextends.readText hread hhere⟩⟩

end Deals

section Faulty

variable {s : FaultyDisk}

theorem extends_writeAll_faulty (w : Writer) (s : FaultyDisk) (drafts : List Draft) :
    s.disk.Extends (w.writeAll s drafts).disk.disk := by
  induction drafts generalizing s with
  | nil => exact .refl s.disk
  | cons draft drafts ih =>
      have hfirst := (w.deals_write_faulty s draft).1.extends_disk
      rcases hwrite : w.write s draft with ⟨middle, f | outcome⟩
      · rw [hwrite] at hfirst
        rw [writeAll_cons_of_error hwrite]
        exact hfirst
      · rw [hwrite] at hfirst
        rw [writeAll_cons_of_ok hwrite]
        exact hfirst.trans (ih middle)

/-- Each file that a run has dealt with for real exists, at the end or where the
run has failed. -/
theorem exists_of_writeAll_faulty (hreal : w.dryRun = false) :
    ∀ a ∈ (w.writeAll s drafts).artifacts,
      (w.writeAll s drafts).disk.disk.exists (Path.push w.root a.path) = true := by
  induction drafts generalizing s with
  | nil => simp [writeAll]
  | cons draft drafts ih =>
      have hfirst := (w.deals_write_faulty s draft).1
      rcases hwrite : w.write s draft with ⟨middle, f | outcome⟩
      · simp [writeAll_cons_of_error hwrite]
      · rw [hwrite] at hfirst
        rw [writeAll_cons_of_ok hwrite]
        intro a ha
        rcases List.mem_cons.mp ha with rfl | ha
        · exact (w.extends_writeAll_faulty middle drafts).exists (hfirst.exists_file hreal)
        · exact ih a ha

/-- What stands where a path leads, when a run ends or fails, comes from a file of the run that leads
there: its text is read, or the run has failed at it and a beginning of its text is there. -/
def Shows (w : Writer) (s : FaultyDisk) (drafts : List Draft) (path : String) : Prop :=
  let run := w.writeAll s drafts
  ∃ i d, drafts[i]? = some d ∧ w.place s.disk d = s.disk.locate path ∧
    (i < run.artifacts.length ∧ run.disk.disk.readText path = .ok d.text ∨
      i = run.artifacts.length ∧ run.failure.isSome = true ∧ ∃ n ∈ s.stops,
        run.disk.disk.kindAt? (s.disk.locate path) = some (.file (.beginning n d.text)))

section First

variable {middle : FaultyDisk} {outcome : Outcome} (hwrite : w.write s draft = (middle, .ok outcome))
include hwrite

theorem working_of_write : middle.disk.working = s.disk.working := by
  have hextends := (w.deals_write_faulty s draft).1.extends_disk
  rw [hwrite] at hextends
  exact hextends.working

theorem Shows.cons (h : w.Shows middle drafts path) : w.Shows s (draft :: drafts) path := by
  obtain ⟨i, d, hd, hlocate, hshows⟩ := h
  have hworking := working_of_write hwrite
  have hfaults := (w.deals_write_faulty s draft).2
  rw [hwrite] at hfaults
  rw [place, Disk.locate_eq_of_working hworking, Disk.locate_eq_of_working hworking] at hlocate
  unfold Shows
  rw [writeAll_cons_of_ok hwrite]
  refine ⟨i + 1, d, hd, hlocate, ?_⟩
  rcases hshows with ⟨hi, hread⟩ | ⟨hi, hfails, n, hn, hkind⟩
  · exact .inl ⟨Nat.succ_lt_succ hi, hread⟩
  · rw [Disk.locate_eq_of_working hworking] at hkind
    exact .inr ⟨congrArg (· + 1) hi, hfails, n, FaultyDisk.stops_subset hfaults hn, hkind⟩

theorem shows_first (hlocate : w.place s.disk draft = s.disk.locate path)
    (hread : (w.writeAll middle drafts).disk.disk.readText path = .ok draft.text) :
    w.Shows s (draft :: drafts) path := by
  unfold Shows
  rw [writeAll_cons_of_ok hwrite]
  exact ⟨0, draft, rfl, hlocate, .inl ⟨Nat.succ_pos _, hread⟩⟩

end First

/-- What was read at a path still is, unless a file dealt with shows there. -/
theorem readText_writeAll {old : String} (hread : s.disk.readText path = .ok old) :
    (w.writeAll s drafts).disk.disk.readText path = .ok old ∨ w.Shows s drafts path := by
  induction drafts generalizing s old with
  | nil => exact .inl hread
  | cons draft drafts ih =>
      have hfirst := (w.deals_write_faulty s draft).1.readText_cases hread
      rcases hwrite : w.write s draft with ⟨middle, f | outcome⟩
      · rw [hwrite] at hfirst
        rcases hfirst with hold | ⟨hlocate, ⟨⟨_, hok⟩, _⟩ | ⟨_, hstopped⟩⟩
        · rw [writeAll_cons_of_error hwrite]
          exact .inl hold
        · cases hok
        · right
          unfold Shows
          rw [writeAll_cons_of_error hwrite]
          exact ⟨0, draft, rfl, hlocate, .inr ⟨rfl, rfl, hstopped⟩⟩
      · rw [hwrite] at hfirst
        rcases hfirst with hold | ⟨hlocate, ⟨_, hnew⟩ | ⟨⟨_, herror⟩, _⟩⟩
        · rw [writeAll_cons_of_ok hwrite]
          exact (ih hold).imp_right (Shows.cons hwrite)
        · rcases ih hnew with hstill | hlater
          · exact .inr (shows_first hwrite hlocate hstill)
          · exact .inr (hlater.cons hwrite)
        · cases herror

/-- At the path of a file that a run has written or overwritten, one of the
files that lead there shows. -/
theorem shows_of_writeAll :
    ∀ a ∈ (w.writeAll s drafts).artifacts,
      a.outcome = .written ∨ a.outcome = .overwritten →
        w.Shows s drafts (Path.push w.root a.path) := by
  induction drafts generalizing s with
  | nil => simp [writeAll]
  | cons draft drafts ih =>
      have hfirst := (w.deals_write_faulty s draft).1
      intro a ha hwritten
      rcases hwrite : w.write s draft with ⟨middle, f | outcome⟩
      · rw [writeAll_cons_of_error hwrite] at ha
        cases ha
      · rw [hwrite] at hfirst
        rw [writeAll_cons_of_ok hwrite] at ha
        rcases List.mem_cons.mp ha with rfl | ha
        · rcases readText_writeAll (hfirst.readText hwritten) with hstill | hlater
          · exact shows_first hwrite rfl hstill
          · exact hlater.cons hwrite
        · exact (ih a ha hwritten).cons hwrite

end Faulty

theorem extends_writeAll (w : Writer) (disk : Disk) (drafts : List Draft) :
    disk.Extends (w.writeAll disk drafts).disk := by
  have hextends := w.extends_writeAll_faulty disk.faultless drafts
  rw [writeAll_map Disk.agrees_faultless] at hextends
  exact hextends

theorem exists_of_writeAll (hreal : w.dryRun = false) :
    ∀ a ∈ (w.writeAll disk drafts).artifacts,
      (w.writeAll disk drafts).disk.exists (Path.push w.root a.path) = true := by
  have hexists : ∀ a ∈ (w.writeAll disk.faultless drafts).artifacts, _ :=
    exists_of_writeAll_faulty hreal
  rw [writeAll_map Disk.agrees_faultless] at hexists
  exact hexists

theorem paths_of_writeAll {artifacts : List Artifact}
    (h : w.writeAll disk drafts = ⟨after, artifacts, none⟩) :
    artifacts.map Artifact.path = drafts.map Draft.path := by
  have hpaths := paths_writeAll (congrArg Progress.failure h)
  rw [h] at hpaths
  exact hpaths

/-- Files that have all come to the same are told by their paths. -/
theorem map_outcome {artifacts : List Artifact}
    (h : artifacts.map Artifact.path = drafts.map Draft.path) (outcome : Outcome) :
    drafts.map (fun d => Artifact.mk d.path outcome) =
      artifacts.map fun a => ⟨a.path, outcome⟩ := by
  have hmap := congrArg (List.map (Artifact.mk · outcome)) h
  rw [List.map_map, List.map_map] at hmap
  exact hmap.symm

end Writer

end AspectForms
