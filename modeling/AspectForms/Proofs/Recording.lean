import AspectForms.Proofs.Components
import AspectForms.Proofs.Persistence

/-!
Sequences of files that a writer deals with, whatever faults strike.  Main statement: each call changes at
most the file at its own path, records what it did there, and without leave to overwrite no file ever
changes.  A call that fails may leave a beginning of its text in that file.
-/

namespace AspectForms

namespace Disk

variable {before after : Disk} {places : Location → Prop} {path : String}
  {contents : Contents}

/-- A way that does not lead up to something that was there before has been there
before. -/
theorem AddsDirectories.walk_before (h : before.AddsDirectories after places)
    {here there : Location} {pieces : List String} (hup : ".." ∉ pieces)
    (hwalk : after.walk here pieces = .ok there)
    (hthere : before.kindAt? there ≠ none) :
    before.walk here pieces = .ok there := by
  induction pieces generalizing here with
  | nil => exact hwalk
  | cons piece pieces ih =>
      rw [List.mem_cons, not_or] at hup
      obtain ⟨middle, hstep, hrest⟩ := bind_eq_ok hwalk
      obtain ⟨hhere, hmiddle, hpiece⟩ := step_eq_ok_iff.mp hstep
      have hahead : here <+: there := by
        rw [walk_eq_follow hwalk]
        exact prefix_follow (by simpa using hup)
      have hbeyond : middle <+: there := by
        rw [walk_eq_follow hrest]
        exact prefix_follow hup.2
      have hnow := kindAt?_ne_none_above hahead hthere
      have hfirst : before.step here piece = .ok middle := by
        refine step_eq_ok_iff.mpr ⟨(h.keeps here hnow).symm.trans hhere, hmiddle, ?_⟩
        rcases hpiece with hdot | hdots | ⟨hlimit, _⟩
        · exact .inl hdot
        · exact absurd hdots.symm hup.1
        · by_cases hdot : piece = "."
          · exact .inl hdot
          · rw [next, if_neg hdot, if_neg (Ne.symm hup.1)] at hmiddle
            exact .inr (.inr ⟨hlimit, hmiddle ▸ kindAt?_ne_none_above hbeyond hthere⟩)
      rw [walk, hfirst]
      exact ih hup.2 hrest

/-- Where a file can be written once directories have been made, nothing was in
its place if nothing was found at its path. -/
theorem AddsDirectories.kindAt?_eq_none (h : before.AddsDirectories after places)
    (hup : ".." ∉ Path.pieces path) {later : Disk}
    (hwrite : after.writeFile path contents = .ok later)
    (hno : before.exists path = false) :
    before.kindAt? (before.locate path) = none := by
  obtain ⟨r, here, name, hroute, hslash, hlast, _, _⟩ := writeFile_eq_ok_iff.mp hwrite
  obtain ⟨hlocate, _⟩ := lastPiece_ok hroute hlast
  obtain ⟨front, hpieces, hwalk, hdot, hdots, hlimit, hhere⟩ :=
    lastPiece_eq_ok_iff.mp hlast
  rw [locate_eq_of_working h.working] at hlocate
  rw [hlocate]
  by_contra hthere
  -- then the way to it was there, and the path would have been found
  have hup : ".." ∉ front := by
    rw [← (route_ok hroute).2, hpieces] at hup
    exact fun hmem => hup (List.mem_append_left _ hmem)
  have habove := kindAt?_ne_none_above (List.prefix_append here [name]) hthere
  have hstep : before.step here name = .ok (here ++ [name]) := by
    refine step_eq_ok_iff.mpr ⟨(h.keeps here habove).symm.trans hhere, ?_, ?_⟩
    · rw [next, if_neg hdot, if_neg hdots]
    · exact .inr (.inr ⟨hlimit, hthere⟩)
  have hfront := walk_concat (h.walk_before hup hwalk habove) hstep
  rw [← hpieces] at hfront
  have hfound : before.exists path = true := by
    obtain ⟨kind, hkind⟩ := Option.ne_none_iff_exists'.mp hthere
    refine exists_iff.mpr ⟨r, here ++ [name], kind, ?_, hfront, hkind, by simp [hslash]⟩
    rw [← hroute, route_eq_of_working h.working]
  cases hno.symm.trans hfound

end Disk

namespace Writer

variable {w : Writer} {stops : List Nat} {disk : Disk} {draft : Draft} {drafts : List Draft}

namespace Deals

variable {middle after : Disk} {result : Disk × Except Failure Outcome}
  {outcome : Outcome}

/-- Where one file is put, the others have the contents that they had. -/
theorem file_iff_of_put {places : Location → Prop} {contents : Contents}
    (hadds : disk.AddsDirectories middle places)
    (hwrite : middle.writeFile (Path.push w.root draft.path) contents = .ok after) {l : Location}
    (hl : l ≠ w.place disk draft) (c : Contents) :
    after.kindAt? l = some (.file c) ↔ disk.kindAt? l = some (.file c) := by
  obtain ⟨_, helsewhere⟩ := kindAt?_of_put hadds hwrite
  rw [helsewhere l hl]
  exact hadds.kindAt?_eq_file_iff

theorem files_elsewhere (h : Deals stops w disk draft result) {l : Location}
    (hl : l ≠ w.place disk draft) (c : Contents) :
    result.1.kindAt? l = some (.file c) ↔ disk.kindAt? l = some (.file c) := by
  cases h with
  | planned hdry => exact Iff.rfl
  | kept hreal hkeep hthere => exact Iff.rfl
  | failed hreal hadds hcause => exact hadds.kindAt?_eq_file_iff
  | stopped hreal hadds hn hwrite houtcome hcause => exact file_iff_of_put hadds hwrite hl c
  | put hreal hadds hwrite houtcome => exact file_iff_of_put hadds hwrite hl c

theorem holds_text (h : Deals stops w disk draft (after, .ok outcome))
    (hwritten : outcome = .written ∨ outcome = .overwritten) :
    after.kindAt? (w.place disk draft) = some (.file (.text draft.text)) := by
  cases h with
  | planned hdry => simp at hwritten
  | kept hreal hkeep hthere => simp at hwritten
  | put hreal hadds hwrite houtcome => exact (kindAt?_of_put hadds hwrite).1

end Deals

/-- Where a file is put nothing was if it counts as new, and else a file was. -/
theorem Admits.kindAt? {middle after : Disk} {places : Location → Prop} {contents : Contents}
    {outcome : Outcome} (houtcome : w.Admits disk draft outcome)
    (hup : ".." ∉ Path.pieces (Path.push w.root draft.path))
    (hadds : disk.AddsDirectories middle places)
    (hwrite : middle.writeFile (Path.push w.root draft.path) contents = .ok after) :
    outcome = .written ∧ disk.kindAt? (w.place disk draft) = none ∨
      outcome = .overwritten ∧ w.overwrite = true ∧
        ∃ c, disk.kindAt? (w.place disk draft) = some (.file c) := by
  rcases houtcome with ⟨rfl, hno⟩ | ⟨rfl, hthere, hover⟩
  · exact .inl ⟨rfl, hadds.kindAt?_eq_none hup hwrite hno⟩
  · refine .inr ⟨rfl, hover, ?_⟩
    -- what was there is no directory, for a file has been put there
    obtain ⟨kind, hkind⟩ :=
      Option.ne_none_iff_exists'.mp (Disk.kindAt?_of_exists hthere)
    obtain ⟨hno, _⟩ := Disk.writeFile_ok hwrite
    rw [Disk.locate_eq_of_working hadds.working, hadds.keeps _ (by simp [hkind]), hkind] at hno
    cases kind with
    | directory => exact absurd rfl hno
    | file c => exact ⟨c, hkind⟩

/-- A failure has left a beginning of the text in the place of a file, where nothing was or a file that
may be overwritten. -/
structure Stopped (w : Writer) (before : Session FaultyDisk) (draft : Draft)
    (after : Session FaultyDisk) (result : Except Failure Outcome) : Prop where
  failed : result.isOk = false
  holds : ∃ n ∈ before.disk.stops, after.disk.disk.kindAt? (w.place before.disk.disk draft) =
    some (.file (.beginning n draft.text))
  allowed : before.disk.disk.kindAt? (w.place before.disk.disk draft) = none ∨
    w.overwrite = true ∧
      ∃ c, before.disk.disk.kindAt? (w.place before.disk.disk draft) = some (.file c)

/-- What dealing with one file in a session comes to. -/
structure Faithful (w : Writer) (before : Session FaultyDisk) (draft : Draft)
    (after : Session FaultyDisk) (result : Except Failure Outcome) : Prop where
  /-- A success is recorded, once and with its outcome. -/
  recorded : ∀ outcome, result = .ok outcome →
    after.artifacts = before.artifacts ++ [⟨draft.path, outcome⟩]
  /-- A failure is not. -/
  unrecorded : ∀ f, result = .error f → after.artifacts = before.artifacts
  /-- Elsewhere the same files have the same contents. -/
  elsewhere : ∀ l ≠ w.place before.disk.disk draft, ∀ c,
    after.disk.disk.kindAt? l = some (.file c) ↔ before.disk.disk.kindAt? l = some (.file c)
  /-- So they have everywhere, unless the file has been written or the writing has stopped. -/
  unwritten : result ≠ .ok .written → result ≠ .ok .overwritten →
    (∀ l c, after.disk.disk.kindAt? l = some (.file c) ↔
        before.disk.disk.kindAt? l = some (.file c)) ∨
      w.Stopped before draft after result
  /-- A file that has been written holds its text. -/
  holds : result = .ok .written ∨ result = .ok .overwritten →
    after.disk.disk.kindAt? (w.place before.disk.disk draft) = some (.file (.text draft.text))
  /-- Nothing was where a file is new. -/
  new : result = .ok .written →
    before.disk.disk.kindAt? (w.place before.disk.disk draft) = none
  /-- A file was where one is overwritten, which is allowed. -/
  replaced : result = .ok .overwritten → w.overwrite = true ∧
    ∃ c, before.disk.disk.kindAt? (w.place before.disk.disk draft) = some (.file c)
  /-- In a dry run nothing happens. -/
  planned : w.dryRun = true → result = .ok .planned ∧ after.disk = before.disk

section One

variable {s : Session FaultyDisk} {result : Disk × Except Failure Outcome}
  (hup : ".." ∉ Path.pieces (Path.push w.root draft.path))
include hup

theorem kindAt?_of_written
    (h : Deals stops w disk draft result) (hwritten : result.2 = .ok .written) :
    disk.kindAt? (w.place disk draft) = none := by
  cases h with
  | put hreal hadds hwrite houtcome =>
      obtain rfl := Except.ok.inj hwritten
      rcases houtcome.kindAt? hup hadds hwrite with ⟨_, hnone⟩ | ⟨hother, _⟩
      · exact hnone
      · cases hother
  | _ => cases hwritten

theorem kindAt?_of_overwritten
    (h : Deals stops w disk draft result) (hwritten : result.2 = .ok .overwritten) :
    w.overwrite = true ∧ ∃ c, disk.kindAt? (w.place disk draft) = some (.file c) := by
  cases h with
  | put hreal hadds hwrite houtcome =>
      obtain rfl := Except.ok.inj hwritten
      rcases houtcome.kindAt? hup hadds hwrite with ⟨hother, _⟩ | ⟨_, hfile⟩
      · cases hother
      · exact hfile
  | _ => cases hwritten

/-- Files are as they were if none has been written, unless the writing has stopped. -/
theorem files_unwritten {after : Session FaultyDisk} {last : Except Failure Outcome}
    (h : Deals s.disk.stops w s.disk.disk draft (after.disk.disk, last))
    (hnew : last ≠ .ok .written) (hold : last ≠ .ok .overwritten) :
    (∀ l c, after.disk.disk.kindAt? l = some (.file c) ↔
        s.disk.disk.kindAt? l = some (.file c)) ∨
      w.Stopped s draft after last := by
  generalize hdisk : after.disk.disk = disk at h
  cases h with
  | planned hdry => exact .inl fun l c => Iff.rfl
  | kept hreal hkeep hthere => exact .inl fun l c => Iff.rfl
  | failed hreal hadds hcause => exact .inl fun l c => hadds.kindAt?_eq_file_iff
  | stopped hreal hadds hn hwrite houtcome hcause =>
      refine .inr ⟨rfl, ⟨_, hn, ?_⟩, ?_⟩
      · rw [hdisk]
        exact (Deals.kindAt?_of_put hadds hwrite).1
      · exact (houtcome.kindAt? hup hadds hwrite).imp And.right And.right
  | put hreal hadds hwrite houtcome =>
      rcases houtcome with ⟨rfl, _⟩ | ⟨rfl, _⟩
      · exact absurd rfl hnew
      · exact absurd rfl hold

/-- Dealing with one file changes at most this file. -/
theorem faithful_record (s : Session FaultyDisk) :
    w.Faithful s draft (w.record s draft).1 (w.record s draft).2 := by
  have hdeals := (w.deals_write_faulty s.disk draft).1
  have hplanned := fun hdry => write_of_dryRun (w := w) hdry s.disk draft
  rcases hwrite : w.write s.disk draft with ⟨after, f | outcome⟩
  · rw [hwrite] at hdeals hplanned
    rw [record_of_error hwrite]
    exact {
      recorded := nofun
      unrecorded := fun _ _ => rfl
      elsewhere := fun l hl c => hdeals.files_elsewhere hl c
      unwritten := files_unwritten hup hdeals
      holds := by simp
      new := nofun
      replaced := nofun
      planned := fun hdry => by cases hplanned hdry }
  · rw [hwrite] at hdeals hplanned
    rw [record_of_ok hwrite]
    exact {
      recorded := fun _ houtcome => by rw [Except.ok.inj houtcome]
      unrecorded := nofun
      elsewhere := fun l hl c => hdeals.files_elsewhere hl c
      unwritten := files_unwritten hup hdeals
      holds := fun h => hdeals.holds_text (by simpa using h)
      new := kindAt?_of_written hup hdeals
      replaced := kindAt?_of_overwritten hup hdeals
      planned := fun hdry => by
        obtain ⟨rfl, houtcome⟩ := Prod.mk.inj (hplanned hdry)
        exact ⟨houtcome, rfl⟩ }

end One

/-- Without leave to overwrite a file stays as it is. -/
theorem Faithful.file_stays {s after : Session FaultyDisk} {result : Except Failure Outcome}
    (h : w.Faithful s draft after result) (hkeep : w.overwrite = false)
    {l : Location} {c : Contents} (hl : s.disk.disk.kindAt? l = some (.file c)) :
    after.disk.disk.kindAt? l = some (.file c) := by
  by_cases hplace : l = w.place s.disk.disk draft
  · subst hplace
    have hnew : result ≠ .ok .written := fun hwritten => by
      cases (h.new hwritten).symm.trans hl
    have hold : result ≠ .ok .overwritten := fun hoverwritten => by
      cases hkeep.symm.trans (h.replaced hoverwritten).1
    rcases h.unwritten hnew hold with hsame | hstopped
    · exact (hsame _ c).mpr hl
    · rcases hstopped.allowed with hnone | ⟨hover, _⟩
      · cases hnone.symm.trans hl
      · cases hkeep.symm.trans hover
  · exact (h.elsewhere l hplace c).mpr hl

section Sequence

variable (hroot : .parent ∉ Path.components w.root)
  (hdrafts : ∀ d ∈ drafts, .parent ∉ Path.components d.path)
include hroot hdrafts

theorem file_stays_recordAll (hkeep : w.overwrite = false) {s : Session FaultyDisk}
    {l : Location} {c : Contents} (hl : s.disk.disk.kindAt? l = some (.file c)) :
    (w.recordAll s drafts).disk.disk.kindAt? l = some (.file c) := by
  induction drafts generalizing s with
  | nil => exact hl
  | cons draft drafts ih =>
      have hup := Path.dots_not_mem_pieces_push hroot (hdrafts draft List.mem_cons_self)
      have hfirst := (faithful_record hup s).file_stays hkeep hl
      exact ih (fun d hd => hdrafts d (List.mem_cons_of_mem draft hd)) hfirst

/-- A sequence of files below a root, on paths that do not lead up, whatever faults strike: each of them
is dealt with faithfully, without leave to overwrite no file that was there or has been written ever
changes, and a dry run does nothing but plan. -/
theorem faithful_recordAll (s : Session FaultyDisk) :
    (∀ earlier draft later, drafts = earlier ++ draft :: later →
      w.Faithful (w.recordAll s earlier) draft
        (w.record (w.recordAll s earlier) draft).1
        (w.record (w.recordAll s earlier) draft).2) ∧
    (w.overwrite = false → ∀ earlier later, drafts = earlier ++ later → ∀ l c,
      (w.recordAll s earlier).disk.disk.kindAt? l = some (.file c) →
        (w.recordAll s drafts).disk.disk.kindAt? l = some (.file c)) ∧
    (w.dryRun = true → w.recordAll s drafts =
      ⟨s.disk, s.artifacts ++ drafts.map fun d => ⟨d.path, .planned⟩⟩) := by
  refine ⟨?_, ?_, fun hdry => recordAll_of_dryRun hdry s drafts⟩
  · rintro earlier draft later rfl
    have hdraft := hdrafts draft (List.mem_append_right _ List.mem_cons_self)
    exact faithful_record (Path.dots_not_mem_pieces_push hroot hdraft) _
  · rintro hkeep earlier later rfl l c hl
    rw [recordAll_append]
    exact file_stays_recordAll hroot
      (fun d hd => hdrafts d (List.mem_append_right _ hd)) hkeep hl

end Sequence

/-- Files in other places than those written to have the same contents. -/
theorem files_elsewhere_writeAll {l : Location} (hl : ∀ d ∈ drafts, l ≠ w.place disk d)
    (c : Contents) :
    (w.writeAll disk drafts).disk.kindAt? l = some (.file c) ↔
      disk.kindAt? l = some (.file c) := by
  induction drafts generalizing disk with
  | nil => exact Iff.rfl
  | cons draft drafts ih =>
      have hdeals := w.deals_write disk draft
      have hfirst := hdeals.files_elsewhere (hl draft List.mem_cons_self) c
      rcases hwrite : w.write disk draft with ⟨middle, f | outcome⟩
      · rw [hwrite] at hfirst
        rw [writeAll_cons_of_error hwrite]
        exact hfirst
      · rw [hwrite] at hdeals hfirst
        rw [writeAll_cons_of_ok hwrite]
        refine (ih fun d hd => ?_).trans hfirst
        rw [place, Disk.locate_eq_of_working hdeals.extends_disk.working]
        exact hl d (List.mem_cons_of_mem draft hd)

end Writer

namespace RecordingWitness

def writer : Writer := ⟨"out", false, false⟩

/-- A file, one inside it as if it were a directory, and the first one again. -/
def drafts : List Draft := [⟨"a", "one"⟩, ⟨"a/b", "two"⟩, ⟨"a", "three"⟩]

/-- A file system with nothing in it, on which there is room for two bytes of the first file. -/
def start : Writer.Session FaultyDisk :=
  ⟨⟨⟨.directory [], []⟩, [none, some ⟨.noSpace, some 2⟩]⟩, []⟩

theorem faithful_recordAll_of_blocked :
    .parent ∉ Path.components writer.root ∧
      (∀ d ∈ drafts, .parent ∉ Path.components d.path) ∧
      (writer.recordAll start drafts).artifacts = [⟨"a", .skipped⟩] ∧
      (writer.recordAll start drafts).disk.disk.kindAt? ["out", "a"] =
        some (.file (.text "on")) := by
  have hroot : .parent ∉ Path.components writer.root := by decide +kernel
  have hdrafts : ∀ d ∈ drafts, .parent ∉ Path.components d.path := by decide +kernel
  obtain ⟨_, hstays, _⟩ := Writer.faithful_recordAll hroot hdrafts start
  refine ⟨hroot, hdrafts, by decide +kernel, ?_⟩
  exact hstays rfl [⟨"a", "one"⟩] _ rfl _ _ (by decide +kernel)

/-- A file that may be overwritten, on a disk without room for its new text. -/
def full : Writer.Session FaultyDisk :=
  ⟨⟨⟨.directory [("out", .directory [("a", .file (.text "one"))])], []⟩,
    [none, some ⟨.noSpace, some 0⟩]⟩, []⟩

/-- A file can change in a call that fails, and has no outcome: it has been emptied for a text for which
there is no room. -/
theorem failing_write_empties_file :
    let call := Writer.record ⟨"out", true, false⟩ full ⟨"a", "two"⟩
    full.disk.disk.kindAt? ["out", "a"] = some (.file (.text "one")) ∧
      call.1.disk.disk.kindAt? ["out", "a"] = some (.file (.text "")) ∧
      call.2.isOk = false ∧ call.1.artifacts = [] := by
  decide +kernel

end RecordingWitness

end AspectForms
