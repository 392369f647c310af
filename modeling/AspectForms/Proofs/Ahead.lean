import AspectForms.Proofs.Entering

/-!
File systems of which one has got further than the other.  Main statement: where one has directories on
the way to some files that the other still lacks, dealing with these files comes to the same in both.
-/

namespace AspectForms

namespace Disk

/-- A file system has directories at some of the places `made`, where the other one has
nothing.  At no other place that can be seen do they differ. -/
structure Ahead (seen made : Location → Prop) (disk ahead : Disk) : Prop where
  working : ahead.working = disk.working
  home : ¬made disk.working
  kindAt? : ∀ l, seen l → ahead.kindAt? l = disk.kindAt? l ∨
    disk.kindAt? l = none ∧ ahead.kindAt? l = some .directory ∧ made l

namespace Ahead

variable {seen made : Location → Prop} {disk ahead : Disk} {path p name : String}
  (h : Ahead seen made disk ahead)
include h

theorem start (path : String) : ahead.start path = disk.start path := by
  rw [Disk.start, Disk.start, h.working]

theorem route (path : String) : ahead.route path = disk.route path :=
  route_eq_of_working h.working path

theorem step {here : Location} {piece : String} (hhere : seen here)
    (hnext : seen (next here piece)) (hup : piece ≠ "..") :
    disk.step here piece = .error .notFound ∨ ahead.step here piece = disk.step here piece := by
  rw [step_eq, step_eq]
  rcases h.kindAt? here hhere with hsame | ⟨hnone, -, -⟩
  · rw [hsame]
    cases disk.kindAt? here with
    | none => exact .inl rfl
    | some kind =>
        cases kind with
        | file c => exact .inr rfl
        | directory =>
            by_cases hdot : piece = "."
            · exact .inr (by simp [hdot])
            · rw [next, if_neg hdot, if_neg hup] at hnext
              simp only [hdot, hup, if_false]
              rcases h.kindAt? _ hnext with hsame | ⟨hnone, -, -⟩
              · exact .inr (by rw [hsame])
              · rw [hnone]
                split
                · exact .inr rfl
                · exact .inl rfl
  · exact .inl (by rw [hnone])

/-- A way that is not missing is the same in both. -/
theorem walk {here : Location} {pieces : List String} (hup : ".." ∉ pieces)
    (hseen : ∀ l, l <+: follow here pieces → seen l) :
    disk.walk here pieces = .error .notFound ∨
      ahead.walk here pieces = disk.walk here pieces := by
  induction pieces generalizing here with
  | nil => exact .inr rfl
  | cons piece pieces ih =>
      obtain ⟨hpiece, hrest⟩ := not_or.mp (mt List.mem_cons.mpr hup)
      have hbeyond : next here piece <+: follow here (piece :: pieces) := prefix_follow hrest
      have hstep := h.step (hseen here (prefix_follow hup)) (hseen _ hbeyond) (Ne.symm hpiece)
      rw [Disk.walk, Disk.walk]
      rcases hstep with hmissing | hsame
      · exact .inl (by rw [hmissing]; rfl)
      · rw [hsame]
        cases hstep : disk.step here piece with
        | error e => exact .inr rfl
        | ok there =>
            obtain rfl := step_eq_next hstep
            exact ih hrest hseen

/-- Below a place where nothing stands the other file system has no files. -/
theorem walk_below {here : Location} {pieces : List String} (hup : ".." ∉ pieces)
    (hseen : ∀ l, l <+: follow here pieces → seen l) (hnone : disk.kindAt? here = none) :
    ahead.walk here pieces ≠ .error .notDirectory := by
  induction pieces generalizing here with
  | nil => exact nofun
  | cons piece pieces ih =>
      obtain ⟨hpiece, hrest⟩ := not_or.mp (mt List.mem_cons.mpr hup)
      rw [Disk.walk]
      cases hstep : ahead.step here piece with
      | error e =>
          intro he
          obtain rfl : e = .notDirectory := Except.error.inj he
          obtain ⟨c, hc⟩ := exists_file_of_step hstep
          rcases h.kindAt? here (hseen here (prefix_follow hup)) with hsame | ⟨-, hmade, -⟩
          · cases hc.symm.trans (hsame.trans hnone)
          · cases hc.symm.trans hmade
      | ok there =>
          obtain rfl := step_eq_next hstep
          refine ih hrest hseen ?_
          by_contra hthere
          exact kindAt?_ne_none_above (prefix_next (Ne.symm hpiece)) hthere hnone

/-- Where the way is missing, no file stands in the way of the other file system. -/
theorem walk_ne_notDirectory {here : Location} {pieces : List String} (hup : ".." ∉ pieces)
    (hseen : ∀ l, l <+: follow here pieces → seen l)
    (hmissing : disk.walk here pieces = .error .notFound) :
    ahead.walk here pieces ≠ .error .notDirectory := by
  induction pieces generalizing here with
  | nil => exact nofun
  | cons piece pieces ih =>
      by_cases hnone : disk.kindAt? here = none
      · exact h.walk_below hup hseen hnone
      obtain ⟨hpiece, hrest⟩ := not_or.mp (mt List.mem_cons.mpr hup)
      rw [Disk.walk] at hmissing ⊢
      cases hstep : ahead.step here piece with
      | error e =>
          intro he
          obtain rfl : e = .notDirectory := Except.error.inj he
          -- the same file stands in the way of both
          obtain ⟨c, hc⟩ := exists_file_of_step hstep
          rcases h.kindAt? here (hseen here (prefix_follow hup)) with hsame | ⟨hnone', -, -⟩
          · rw [step_eq, ← hsame, hc] at hmissing
            cases hmissing
          · exact hnone hnone'
      | ok there =>
          obtain rfl := step_eq_next hstep
          cases hfirst : disk.step here piece with
          | error e =>
              rw [hfirst] at hmissing
              obtain rfl : e = .notFound := Except.error.inj hmissing
              exact h.walk_below hrest hseen (kindAt?_of_step (Ne.symm hpiece) hfirst)
          | ok middle =>
              rw [hfirst] at hmissing
              obtain rfl := step_eq_next hfirst
              exact ih hrest hseen hmissing

theorem kindAt?_eq {l : Location} (hl : seen l) (hmade : ¬made l) :
    ahead.kindAt? l = disk.kindAt? l := by
  rcases h.kindAt? l hl with hsame | ⟨-, -, hmade'⟩
  · exact hsame
  · exact absurd hmade' hmade

section Enter

variable (hup : ".." ∉ Path.pieces path) (hseen : ∀ l, l <+: disk.locate path → seen l)
include hup hseen

omit h in
theorem up_and_seen : ".." ∉ Path.pieces path ++ ["."] ∧
    ∀ l, l <+: follow (disk.start path) (Path.pieces path ++ ["."]) → seen l := by
  refine ⟨by simpa using hup, fun l hl => hseen l ?_⟩
  rwa [follow_append] at hl

theorem enter :
    disk.enter path = .error .notFound ∨ ahead.enter path = disk.enter path := by
  obtain ⟨hup, hseen⟩ := up_and_seen hup hseen
  rw [Disk.enter, Disk.enter, h.start]
  exact h.walk hup hseen

theorem enter_ne_notDirectory (hno : disk.enter path ≠ .error .notDirectory) :
    ahead.enter path ≠ .error .notDirectory := by
  rcases h.enter hup hseen with hmissing | hsame
  · obtain ⟨hup, hseen⟩ := up_and_seen hup hseen
    rw [Disk.enter, h.start]
    exact h.walk_ne_notDirectory hup hseen hmissing
  · exact hsame ▸ hno

/-- Where nothing has been made, the same exists. -/
theorem exists_eq (hmade : ¬made (disk.locate path)) : ahead.exists path = disk.exists path := by
  have hsame := h.kindAt?_eq (hseen _ (List.prefix_refl _)) hmade
  rw [Bool.eq_iff_iff, exists_iff, exists_iff]
  refine exists_congr fun r => exists_congr fun here => exists_congr fun kind => ?_
  rw [h.route]
  refine and_congr_right fun hroute => ?_
  obtain ⟨hstart, hpieces⟩ := route_ok hroute
  rw [hstart, hpieces]
  have hhere {d : Disk} (hwalk : d.walk (disk.start path) (Path.pieces path) = .ok here) :
      here = disk.locate path := walk_eq_follow hwalk
  rcases h.walk hup hseen with hmissing | hwalk
  · -- at the end of a way that is missing there is nothing in either
    have hnone := hsame.trans (kindAt?_of_walk hup hmissing)
    rw [hmissing]
    constructor
    · rintro ⟨hwalk, hkind, -⟩
      rw [hhere hwalk, hnone] at hkind
      cases hkind
    · rintro ⟨hwalk, -⟩
      cases hwalk
  · rw [hwalk]
    refine and_congr_right fun hwalk => ?_
    rw [hhere hwalk, hsame]

end Enter

variable {disk' ahead' : Disk}

theorem puts {place : Location} {kind : NodeKind} (hdisk : disk.Puts disk' place kind)
    (hahead : ahead.Puts ahead' place kind) : Ahead seen made disk' ahead' where
  working := hahead.working.trans (h.working.trans hdisk.working.symm)
  home := hdisk.working ▸ h.home
  kindAt? l hl := by
    rw [hdisk.kindAt?, hahead.kindAt?]
    split
    · exact .inl rfl
    · exact h.kindAt? l hl

/-- Where the other file system has a directory, this one gets it. -/
theorem catchUp {place : Location} (hdisk : disk.Puts disk' place .directory)
    (hahead : ahead.kindAt? place = some .directory) : Ahead seen made disk' ahead where
  working := h.working.trans hdisk.working.symm
  home := hdisk.working ▸ h.home
  kindAt? l hl := by
    rw [hdisk.kindAt?]
    split
    · exact .inl (‹l = place› ▸ hahead)
    · exact h.kindAt? l hl

/-- The outcome is the same in both, and one file system is still ahead of the other. -/
def Alike {α : Type} (seen made : Location → Prop) (run run' : Disk × α) : Prop :=
  run'.2 = run.2 ∧ Ahead seen made run.1 run'.1

omit h in
theorem Alike.exists_runs {α : Type} {run run' : Disk × α} (halike : Alike seen made run run') :
    ∃ after after' result, run = (after, result) ∧ run' = (after', result) ∧
      Ahead seen made after after' :=
  ⟨run.1, run'.1, run.2, rfl, Prod.ext rfl halike.1, halike.2⟩

section Enters

variable (henters : Path.Enters path p name) (hseen : ∀ l, l <+: disk.locate path → seen l)
include henters

omit h in
theorem level_of_enters : ".." ∉ Path.pieces p := by
  obtain ⟨dots, -, hpieces⟩ := henters.split
  exact fun hmem => henters.level (hpieces ▸ List.mem_append_left _ hmem)

include hseen

omit h in
theorem seen_of_enters : ∀ l, l <+: disk.locate p → seen l := fun l hl =>
  hseen l (hl.trans (locate_eq henters disk ▸ List.prefix_append _ _))

/-- Where the paths above lead to the same directory, making one there comes to the same. -/
theorem settle {r : Route} (hroute : disk.route path = .ok r)
    (hsame : ahead.enter p = disk.enter p) :
    Alike seen made (FileSystem.settle disk path) (FileSystem.settle ahead path) := by
  have hroute' : ahead.route path = .ok r := (h.route path).trans hroute
  have hlocate : ahead.locate path = disk.locate path := locate_eq_of_working h.working path
  rw [settle_eq henters hroute, settle_eq henters hroute', hsame, hlocate]
  cases henter : disk.enter p with
  | error e => exact ⟨rfl, h⟩
  | ok here =>
      have henter' := hsame.trans henter
      have hputs := puts_of_enter henters henter fun _ => Tree.childless_directory
      have hputs' := puts_of_enter henters henter' fun _ => Tree.childless_directory
      rw [hlocate] at hputs'
      dsimp only
      split
      · exact ⟨rfl, h⟩
      · rcases h.kindAt? _ (hseen _ (List.prefix_refl _)) with hkind | ⟨hnone, hmade, -⟩
        · rw [hkind] at hputs' ⊢
          cases hthere : disk.kindAt? (disk.locate path) with
          | none =>
              rw [hthere] at hputs hputs'
              exact ⟨rfl, h.puts (hputs nofun) (hputs' nofun)⟩
          | some kind => cases kind <;> exact ⟨rfl, h⟩
        · rw [hnone] at hputs ⊢
          rw [hmade]
          exact ⟨rfl, h.catchUp (hputs nofun) hmade⟩

/-- Once the directories above have been made, a path leads to the same one in both. -/
theorem enter_of_makeChain {before : Disk} {above : List String} (habove : Above p above)
    (hmake : FileSystem.makeChain before above = (disk, .ok ())) : ahead.enter p = disk.enter p := by
  have hup := level_of_enters henters
  have hseen' := seen_of_enters henters hseen
  rcases habove with ⟨rfl, rfl⟩ | ⟨hp, rest, rfl, -⟩
  · -- nothing has been made where relative paths start
    have hkind : ahead.kindAt? disk.working = disk.kindAt? disk.working :=
      h.kindAt?_eq (hseen' _ (List.prefix_refl _)) h.home
    change ahead.walk ahead.working ["."] = disk.walk disk.working ["."]
    rw [walk_dot, walk_dot, h.working, hkind]
  · obtain ⟨-, here, henter⟩ := isDirectory_iff_enter.mp (isDirectory_of_makeChain hmake)
    exact (h.enter hup hseen').resolve_left fun hmissing => by cases hmissing.symm.trans henter

end Enters

/-- Where nothing has been made, putting a file comes to the same in both. -/
theorem writeFile (henters : Path.Enters path p name)
    (hseen : ∀ l, l <+: disk.locate path → seen l) (hmade : ¬made (disk.locate path))
    (hsame : ahead.enter p = disk.enter p) (contents : Contents) :
    (∃ e, disk.writeFile path contents = .error e ∧ ahead.writeFile path contents = .error e) ∨
      ∃ disk' ahead', disk.writeFile path contents = .ok disk' ∧
        ahead.writeFile path contents = .ok ahead' ∧ Ahead seen made disk' ahead' := by
  have hlocate : ahead.locate path = disk.locate path := locate_eq_of_working h.working path
  cases hroute : disk.route path with
  | error e =>
      refine .inl ⟨e, ?_, ?_⟩
      · rw [Disk.writeFile, hroute]
        rfl
      · rw [Disk.writeFile, h.route, hroute]
        rfl
  | ok r =>
      have hkind := h.kindAt?_eq (hseen _ (List.prefix_refl _)) hmade
      have hdisk := writeFile_eq henters hroute contents
      have hahead := writeFile_eq henters ((h.route path).trans hroute) contents
      rw [hsame] at hahead
      cases henter : disk.enter p with
      | error e =>
          rw [henter] at hdisk hahead
          exact .inl ⟨e, hdisk, hahead⟩
      | ok here =>
          obtain rfl := eq_locate_of_enter henter
          simp only [henter, bind, Except.bind, ← locate_eq henters] at hdisk hahead
          rw [hkind] at hahead
          split_ifs at hdisk hahead with hlong htaken
          · exact .inl ⟨_, hdisk, hahead⟩
          · exact .inl ⟨_, hdisk, hahead⟩
          · exact .inr ⟨_, _, hdisk, hahead,
              h.puts (writeFile_ok hdisk).2 (hlocate ▸ (writeFile_ok hahead).2)⟩

/-- Once it comes to the same to make the directories above, so it does to make one there. -/
theorem makeChain_cons (henters : Path.Enters path p name) {above : List String}
    (habove : Above p above) (hseen : ∀ l, l <+: disk.locate path → seen l)
    (ih : Alike seen made (FileSystem.makeChain disk above) (FileSystem.makeChain ahead above)) :
    Alike seen made (FileSystem.makeChain disk (path :: above)) (FileSystem.makeChain ahead (path :: above)) := by
  cases hroute : disk.route path with
  | error e =>
      have hroute' : ahead.route path = .error e := (h.route path).trans hroute
      rw [makeChain_of_route henters hroute, makeChain_of_route henters hroute']
      exact ⟨rfl, h⟩
  | ok r =>
      have hroute' : ahead.route path = .ok r := (h.route path).trans hroute
      have hup := level_of_enters henters
      have hseen' := seen_of_enters henters hseen
      by_cases hno : disk.enter p = .error .notDirectory
      · -- a file stands in the way of both
        have hno' := (h.enter hup hseen').resolve_left fun hmissing => by
          cases hmissing.symm.trans hno
        have hmake := makeDirectory_of_enter henters hroute hno
        have hmake' := makeDirectory_of_enter henters hroute' (hno'.trans hno)
        rw [makeChain_of_ne_notFound (hmake ▸ nofun), makeChain_of_ne_notFound (hmake' ▸ nofun)]
        exact h.settle henters hseen hroute hno'
      · have hno' := h.enter_ne_notDirectory hup hseen' hno
        rw [Disk.makeChain_cons henters hroute habove hno,
          Disk.makeChain_cons henters hroute' habove hno']
        obtain ⟨middle, middle', result, hchain, hchain', hahead⟩ := ih.exists_runs
        have hworking := (disk.makeChain_adds above).working
        rw [hchain] at hworking
        rw [hchain, hchain']
        cases result with
        | error e => exact ⟨rfl, hahead⟩
        | ok _ =>
            have hmiddle : middle.route path = .ok r := by
              rw [← hroute, route_eq_of_working hworking]
            rw [← locate_eq_of_working hworking] at hseen
            exact hahead.settle henters hseen hmiddle
              (hahead.enter_of_makeChain henters hseen habove hchain)

/-- Making directories comes to the same in both. -/
theorem makeChain {paths : List String} (hlineage : Path.Lineage paths)
    (hseen : ∀ q ∈ paths.head?, ∀ l, l <+: disk.locate q → seen l) :
    Alike seen made (FileSystem.makeChain disk paths) (FileSystem.makeChain ahead paths) := by
  induction hlineage with
  | top henters => exact h.makeChain_cons henters (.inl ⟨rfl, rfl⟩) (hseen _ rfl) ⟨rfl, h⟩
  | inside henters hp habove ih =>
      refine h.makeChain_cons henters (.inr ⟨hp, _, rfl, habove⟩) (hseen _ rfl) (ih ?_)
      intro q hq
      exact Option.some.inj hq ▸ seen_of_enters henters (hseen _ rfl)

end Ahead

end Disk

namespace Writer

open Disk.Ahead (Alike)

variable {seen made : Location → Prop} {disk ahead : Disk} {w : Writer} {draft : Draft}
  {drafts : List Draft}

/-- A file is dealt with on a path through names, in a place that can be seen and where no directory
has been made. -/
structure Clear (seen made : Location → Prop) (w : Writer) (disk : Disk) (draft : Draft) :
    Prop where
  path : Path.ThroughNames (Path.push w.root draft.path)
  components : Path.components (Path.push w.root draft.path) ≠ []
  seen : ∀ l, l <+: w.place disk draft → seen l
  free : ¬made (w.place disk draft)

theorem Clear.of_working {later : Disk} (hclear : w.Clear seen made disk draft)
    (h : later.working = disk.working) : w.Clear seen made later draft := by
  have hplace : w.place later draft = w.place disk draft := Disk.locate_eq_of_working h _
  exact ⟨hclear.path, hclear.components, hplace ▸ hclear.seen, hplace ▸ hclear.free⟩

/-- Dealing with one file comes to the same in both. -/
theorem alike_write (h : Disk.Ahead seen made disk ahead) (hclear : w.Clear seen made disk draft) :
    Alike seen made (w.write disk draft) (w.write ahead draft) := by
  obtain ⟨p, name, hparent, henters, habove⟩ := Disk.exists_above hclear.path hclear.components
  have hexists := h.exists_eq henters.level hclear.seen hclear.free
  have hmake : Alike seen made (FileSystem.makeDirectories disk p) (FileSystem.makeDirectories ahead p) := by
    rw [FileSystem.makeDirectories, FileSystem.makeDirectories]
    rcases habove with ⟨hnone, -⟩ | ⟨-, above, heq, hlineage⟩
    · rw [hnone]
      exact ⟨rfl, h⟩
    · refine h.makeChain hlineage fun q hq => ?_
      rw [heq] at hq
      exact Option.some.inj hq ▸ Disk.Ahead.seen_of_enters henters hclear.seen
  rw [write_disk, write_disk]
  dsimp only
  rw [hexists, hparent, Option.getD_some]
  split
  · exact ⟨rfl, h⟩
  · split
    · exact ⟨rfl, h⟩
    · obtain ⟨middle, middle', result, hchain, hchain', hahead⟩ := hmake.exists_runs
      have hworking := (Disk.adds_of_makeDirectories hchain).working
      rw [hchain, hchain']
      cases result with
      | error e => exact ⟨rfl, hahead⟩
      | ok _ =>
          obtain ⟨-, -, hseen, hfree⟩ := hclear
          rw [place, ← Disk.locate_eq_of_working hworking] at hseen hfree
          have hsame := hahead.enter_of_makeChain henters hseen habove hchain
          dsimp only
          rcases hahead.writeFile henters hseen hfree hsame (.text draft.text) with
            ⟨e, hwrite, hwrite'⟩ | ⟨later, later', hwrite, hwrite', hlater⟩
          · rw [hwrite, hwrite']
            exact ⟨rfl, hahead⟩
          · rw [hwrite, hwrite']
            exact ⟨rfl, hlater⟩

/-- Dealing with files one after the other comes to the same in both. -/
theorem alike_writeAll (h : Disk.Ahead seen made disk ahead)
    (hclear : ∀ d ∈ drafts, w.Clear seen made disk d) :
    (w.writeAll ahead drafts).artifacts = (w.writeAll disk drafts).artifacts ∧
      (w.writeAll ahead drafts).failure = (w.writeAll disk drafts).failure ∧
      Disk.Ahead seen made (w.writeAll disk drafts).disk (w.writeAll ahead drafts).disk := by
  induction drafts generalizing disk ahead with
  | nil => exact ⟨rfl, rfl, h⟩
  | cons draft drafts ih =>
      obtain ⟨hdraft, hrest⟩ := List.forall_mem_cons.mp hclear
      obtain ⟨middle, middle', result, hwrite, hwrite', hahead⟩ :=
        (alike_write h hdraft).exists_runs
      have hworking := (w.deals_write disk draft).extends_disk.working
      rw [hwrite] at hworking
      cases result with
      | error f =>
          rw [writeAll, writeAll, hwrite, hwrite']
          exact ⟨rfl, rfl, hahead⟩
      | ok outcome =>
          rw [writeAll_cons_of_ok hwrite, writeAll_cons_of_ok hwrite']
          obtain ⟨hartifacts, hfailure, hdisk⟩ :=
            ih hahead fun d hd => (hrest d hd).of_working hworking
          exact ⟨congrArg (_ :: ·) hartifacts, hfailure, hdisk⟩

end Writer

end AspectForms
