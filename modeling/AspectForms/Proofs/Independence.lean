import AspectForms.Proofs.Ahead
import AspectForms.Proofs.Containment

/-!
Targets side by side.  Main statement: where components are named by the element, the targets go into
directories of their own, and on a file system without links running them one after the other, in any order,
comes to what each of them comes to alone.  A link between their files, or want of room, lets them interfere.
-/

namespace AspectForms

theorem Text.words_append_hyphen (s t : String) :
    words (s ++ "-" ++ t) = words s ++ words t := by
  have hhyphen : (!isAlphanumeric '-') = true := by decide +kernel
  have hlist : (s ++ "-" ++ t).toList = s.toList ++ '-' :: t.toList := by simp
  rw [words, hlist, splitWhen_append_of _ hhyphen, List.flatMap_append]
  rfl

namespace Target

variable {config : Config} (hblank : (Text.trim config.name).isEmpty = true) (element : String)
include hblank

/-- The name of a component ends with the word for its target. -/
theorem exists_stem_eq (target : Target) :
    ∃ before, (config.stem element target).toList = before ++ target.word.toList := by
  have hword : (Text.words target.word).map Text.lowerWord = [target.word.toList] := by
    cases target <;> decide +kernel
  rw [Config.stem, if_pos hblank, Text.kebabCase, String.toList_ofList, Text.words_append_hyphen,
    List.map_append, hword]
  cases hwords : (Text.words element).map Text.lowerWord with
  | nil => exact ⟨[], rfl⟩
  | cons w ws =>
      refine ⟨Text.joinWith '-' (w :: ws) ++ ['-'], ?_⟩
      rw [Text.joinWith_append (List.cons_ne_nil w ws) (List.cons_ne_nil _ _), List.append_assoc]
      rfl

theorem isName_stem (target : Target) : Path.IsName (config.stem element target) := by
  have hsafe := pathSafe_stem config element target
  refine Path.isName_of_not_mem ?_ (not_mem_slash hsafe) fun hmem => (hsafe _ hmem).2.2.1 rfl
  intro hempty
  obtain ⟨before, hstem⟩ := exists_stem_eq hblank element target
  rw [hempty] at hstem
  cases target <;> simp [word] at hstem

/-- Different targets have components with different names. -/
theorem stem_injective {s t : Target} (h : config.stem element s = config.stem element t) :
    s = t := by
  obtain ⟨before, hs⟩ := exists_stem_eq hblank element s
  obtain ⟨before', ht⟩ := exists_stem_eq hblank element t
  have hends : (before ++ s.word.toList).getLast? = (before' ++ t.word.toList).getLast? := by
    rw [← hs, ← ht, h]
  cases s <;> cases t <;> simp [word] at hends ⊢

end Target

namespace Disk

variable {before middle after : Disk} {here : Location} {name : String}

/-- The directories on the way to a file stand on the way to its place, below the directory where
relative paths start. -/
theorem locate_of_lineage {paths : List String} (h : Path.Lineage paths) (disk : Disk) :
    ∀ q ∈ paths, (∀ path ∈ paths.head?, disk.locate q <+: disk.locate path) ∧
      ∃ names ≠ [], disk.locate q = disk.working ++ names := by
  induction h with
  | @top path name henters =>
      intro q hq
      obtain rfl := List.mem_singleton.mp hq
      refine ⟨fun path hpath => Option.some.inj hpath ▸ List.prefix_refl _, [name], by simp,
        locate_eq henters disk⟩
  | @inside path p name above henters hp habove ih =>
      have hlocate := locate_eq henters disk
      intro q hq
      rcases List.mem_cons.mp hq with rfl | hq
      · obtain ⟨names, -, hnames⟩ := (ih p List.mem_cons_self).2
        refine ⟨fun path hpath => Option.some.inj hpath ▸ List.prefix_refl _, names ++ [name],
          by simp, ?_⟩
        rw [hlocate, hnames, List.append_assoc]
      · refine ⟨fun path hpath => ?_, (ih q hq).2⟩
        obtain rfl := Option.some.inj hpath
        exact ((ih q hq).1 p rfl).trans (hlocate ▸ List.prefix_append _ _)

/-- Nothing has changed outside an entry of a directory, but for directories that have been made on
the way to it. -/
structure ChangesBelow (here : Location) (name : String) (before after : Disk) : Prop where
  working : after.working = before.working
  kindAt? : ∀ l, after.kindAt? l = before.kindAt? l ∨ here ++ [name] <+: l ∨
    before.kindAt? l = none ∧ after.kindAt? l = some .directory ∧ l <+: here ∧
      l ≠ before.working

namespace ChangesBelow

theorem refl (disk : Disk) : disk.ChangesBelow here name disk where
  working := rfl
  kindAt? _ := .inl rfl

theorem trans (h : before.ChangesBelow here name middle)
    (h' : middle.ChangesBelow here name after) : before.ChangesBelow here name after where
  working := h'.working.trans h.working
  kindAt? l := by
    rcases h.kindAt? l with hsame | hbelow | ⟨hnone, hmade, hl⟩
    · rcases h'.kindAt? l with hsame' | hbelow' | ⟨hnone', hmade', hl'⟩
      · exact .inl (hsame'.trans hsame)
      · exact .inr (.inl hbelow')
      · exact .inr (.inr ⟨hsame ▸ hnone', hmade', h.working ▸ hl'⟩)
    · exact .inr (.inl hbelow)
    · rcases h'.kindAt? l with hsame' | hbelow' | ⟨hnone', -, -⟩
      · exact .inr (.inr ⟨hnone, hsame'.trans hmade, hl⟩)
      · exact .inr (.inl hbelow')
      · cases hnone'.symm.trans hmade

theorem of_puts {place : Location} {kind : NodeKind} (hplace : here ++ [name] <+: place)
    (h : before.Puts after place kind) : before.ChangesBelow here name after where
  working := h.working
  kindAt? l := by
    rw [h.kindAt?]
    split
    · exact .inr (.inl (‹l = place› ▸ hplace))
    · exact .inl rfl

theorem of_adds {place : Location} {places : Location → Prop} (hplace : here ++ [name] <+: place)
    (hplaces : ∀ l, places l → l <+: place ∧ l ≠ before.working)
    (h : before.AddsDirectories after places) : before.ChangesBelow here name after where
  working := h.working
  kindAt? l := by
    by_cases hnone : before.kindAt? l = none
    · rcases h.news l hnone with hno | ⟨hnew, hl⟩
      · exact .inl (hno.trans hnone.symm)
      · obtain ⟨hbefore, hworking⟩ := hplaces l hl
        rcases List.prefix_or_prefix_of_prefix hbefore hplace with hup | hdown
        · rcases List.prefix_concat_iff.mp hup with rfl | hup
          · exact .inr (.inl (List.prefix_refl _))
          · exact .inr (.inr ⟨hnone, hnew, hup, hworking⟩)
        · exact .inr (.inl hdown)
    · exact .inl (h.keeps l hnone)

end ChangesBelow

end Disk

namespace Writer

variable {w : Writer} {disk : Disk} {draft : Draft} {drafts : List Draft} {here : Location}
  {name : String}

/-- Dealing with one file changes only the file and the directories on the way to it. -/
theorem changesBelow_write (hpath : Path.ThroughNames (Path.push w.root draft.path))
    (hne : Path.components (Path.push w.root draft.path) ≠ [])
    (hplace : here ++ [name] <+: w.place disk draft) :
    disk.ChangesBelow here name (w.write disk draft).1 := by
  obtain ⟨p, last, hparent, henters, habove⟩ := Disk.exists_above hpath hne
  have hon : ∀ l, (∃ q ∈ Path.prefixes p, l = disk.locate q) →
      l <+: w.place disk draft ∧ l ≠ disk.working := by
    rintro _ ⟨q, hq, rfl⟩
    rcases habove with ⟨hnone, -⟩ | ⟨-, above, heq, hlineage⟩
    · rw [hnone] at hq
      cases hq
    · obtain ⟨hway, names, hnames, hbelow⟩ := Disk.locate_of_lineage hlineage disk q hq
      refine ⟨(hway p (heq ▸ rfl)).trans ?_, by simp [hbelow, hnames]⟩
      rw [place, Disk.locate_eq henters]
      exact List.prefix_append _ _
  rw [write_disk]
  dsimp only
  rw [hparent, Option.getD_some]
  split
  · exact .refl disk
  · split
    · exact .refl disk
    · cases hmake : FileSystem.makeDirectories disk p with
      | mk middle result =>
          have hadds := Disk.adds_of_makeDirectories hmake
          have hmiddle := Disk.ChangesBelow.of_adds hplace hon hadds
          cases result with
          | error e => exact hmiddle
          | ok _ =>
              dsimp only
              cases hwrite : middle.writeFile (Path.push w.root draft.path) (.text draft.text) with
              | error e => exact hmiddle
              | ok after =>
                  have hputs := (Disk.writeFile_ok hwrite).2
                  rw [Disk.locate_eq_of_working hadds.working] at hputs
                  exact hmiddle.trans (.of_puts hplace hputs)

theorem changesBelow_writeAll
    (h : ∀ d ∈ drafts, Path.ThroughNames (Path.push w.root d.path) ∧
      Path.components (Path.push w.root d.path) ≠ [] ∧ here ++ [name] <+: w.place disk d) :
    disk.ChangesBelow here name (w.writeAll disk drafts).disk := by
  induction drafts generalizing disk with
  | nil => exact .refl disk
  | cons draft drafts ih =>
      obtain ⟨⟨hpath, hne, hplace⟩, hrest⟩ := List.forall_mem_cons.mp h
      have hfirst := changesBelow_write hpath hne hplace
      cases hwrite : w.write disk draft with
      | mk middle result =>
          rw [hwrite] at hfirst
          cases result with
          | error f =>
              rw [writeAll, hwrite]
              exact hfirst
          | ok outcome =>
              rw [writeAll_cons_of_ok hwrite]
              refine hfirst.trans (ih fun d hd => ?_)
              obtain ⟨hpath, hne, hplace⟩ := hrest d hd
              refine ⟨hpath, hne, ?_⟩
              rw [place, Disk.locate_eq_of_working hfirst.working]
              exact hplace

end Writer

namespace Selection

variable {s : Selection} {config : Config} {target : Target} {output : String}
  (hstem : Path.IsName (s.stem config target))
  (houtput : ∀ c ∈ Path.components output, ∃ n, c = .normal n)
include hstem houtput

/-- The files of a run are dealt with on paths through names, in places inside the directory of the
run. -/
theorem path_of_mem_drafts (dryRun : Bool) (disk : Disk) {d : Draft}
    (hd : d ∈ (s.plan config target).drafts) :
    let w := s.writer config target output dryRun
    Path.ThroughNames (Path.push w.root d.path) ∧
      Path.components (Path.push w.root d.path) ≠ [] ∧
      disk.locate output ++ [s.stem config target] <+: w.place disk d := by
  intro w
  obtain ⟨steps, hsteps, hpath⟩ := s.exists_steps config target hd
  have hname := hsteps.isName
  have hone : ∀ n ∈ [s.stem config target], Path.IsName n := by simpa using hstem
  have hthrough : Path.through [s.stem config target] = s.stem config target := by
    simp [Path.through, Text.joinWith]
  have hroot : w.root = Path.push output (Path.through [s.stem config target]) := by
    rw [hthrough]
    simp only [w, writer]
  have hne : steps ≠ [] := by
    obtain ⟨directories, file, rfl, _⟩ := hsteps
    simp
  have hnames : ∀ c ∈ Path.components w.root, ∃ n, c = .normal n :=
    hroot ▸ Path.names_push_through houtput hone
  rw [Writer.place, hpath]
  refine ⟨Path.throughNames_push hnames hname hne, ?_, ?_⟩
  · rw [Path.components_push_through hname]
    simp [hne]
  · rw [Disk.locate_push_through hname, hroot, Disk.locate_push_through hone]
    exact List.prefix_append _ _

end Selection

/-- Run targets one after the other, each on the file system that those before it have left. -/
def Model.generateAll {σ : Type} [FileSystem σ] (model : Model) (config : Config)
    (output : String) (dryRun : Bool) : List Target → σ → σ × List (Except Failure Report)
  | [], disk => (disk, [])
  | target :: targets, disk =>
    let (after, result) := model.generate config target output dryRun disk
    let (last, results) := model.generateAll config output dryRun targets after
    (last, result :: results)

namespace Disk

/-- A place on the way to `top` or below it. -/
def Near (top l : Location) : Prop := l <+: top ∨ top <+: l

/-- A directory that stands on the way to `here` now, where nothing was before. -/
def MadeAbove (here : Location) (before now : Disk) (l : Location) : Prop :=
  before.kindAt? l = none ∧ now.kindAt? l = some .directory ∧ l <+: here ∧ l ≠ before.working

/-- What runs come to together: where one of them alone changes something it is changed in the same
way, and where none does nothing is changed. -/
structure SumOf (alone : Target → Disk) (targets : List Target) (disk together : Disk) :
    Prop where
  working : together.working = disk.working
  changed : ∀ t ∈ targets, ∀ l, (alone t).kindAt? l ≠ disk.kindAt? l →
    together.kindAt? l = (alone t).kindAt? l
  unchanged : ∀ l, (∀ t ∈ targets, (alone t).kindAt? l = disk.kindAt? l) →
    together.kindAt? l = disk.kindAt? l

/-- What is below one entry of a directory is not near another one. -/
theorem name_eq_of_near {here l : Location} {x y : String} (hx : here ++ [x] <+: l)
    (hy : Near (here ++ [y]) l) : x = y := by
  have hlength : (here ++ [x]).length = (here ++ [y]).length := by simp
  have heq : here ++ [x] = here ++ [y] := by
    rcases hy with hy | hy
    · exact (hx.trans hy).eq_of_length hlength
    · rcases List.prefix_or_prefix_of_prefix hx hy with h | h
      · exact h.eq_of_length hlength
      · exact (h.eq_of_length hlength.symm).symm
  simpa using heq

theorem near_of_above {here l : Location} (h : l <+: here) (name : String) :
    Near (here ++ [name]) l :=
  .inl (h.trans (List.prefix_append here [name]))

theorem not_prefix_of_below {here l : Location} {name : String} (h : here ++ [name] <+: l) :
    ¬l <+: here := by
  intro hl
  have hle := (h.trans hl).length_le
  rw [List.length_append, List.length_singleton] at hle
  omega

namespace SumOf

variable {alone : Target → Disk} {done : List Target} {disk now after : Disk} {t : Target}
  {here : Location} {stem : Target → String}

theorem nil (alone : Target → Disk) (disk : Disk) : SumOf alone [] disk disk where
  working := rfl
  changed := nofun
  unchanged _ _ := rfl

theorem of_perm {order : List Target} (h : done.Perm order) (hsum : SumOf alone done disk now) :
    SumOf alone order disk now where
  working := hsum.working
  changed t ht := hsum.changed t (h.mem_iff.mpr ht)
  unchanged l hl := hsum.unchanged l fun t ht => hl t (h.mem_iff.mp ht)

/-- The runs tell what they come to together. -/
theorem kindAt?_eq (h : SumOf alone done disk now) (h' : SumOf alone done disk after)
    (l : Location) : after.kindAt? l = now.kindAt? l := by
  by_cases hsame : ∀ t ∈ done, (alone t).kindAt? l = disk.kindAt? l
  · rw [h.unchanged l hsame, h'.unchanged l hsame]
  · obtain ⟨t, ht⟩ := not_forall.mp hsame
    obtain ⟨ht, hchanged⟩ := Classical.not_imp.mp ht
    rw [h.changed t ht l hchanged, h'.changed t ht l hchanged]

section Step

variable (hsum : SumOf alone done disk now)
  (hbelow : ∀ u, disk.ChangesBelow here (stem u) (alone u))
  (happart : ∀ u ∈ done, stem u ≠ stem t)
include hsum hbelow happart

/-- What others have left is ahead of what was there before them only by directories. -/
theorem ahead : Ahead (Near (here ++ [stem t])) (MadeAbove here disk now) disk now where
  working := hsum.working
  home h := h.2.2.2 rfl
  kindAt? l hl := by
    by_cases hsame : ∀ u ∈ done, (alone u).kindAt? l = disk.kindAt? l
    · exact .inl (hsum.unchanged l hsame)
    · obtain ⟨u, hu⟩ := not_forall.mp hsame
      obtain ⟨hu, hchanged⟩ := Classical.not_imp.mp hu
      have hnow := hsum.changed u hu l hchanged
      rcases (hbelow u).kindAt? l with hsame | hinside | ⟨hnone, hmade, habove, hworking⟩
      · exact absurd hsame hchanged
      · exact absurd (name_eq_of_near hinside hl) (happart u hu)
      · exact .inr ⟨hnone, hnow.trans hmade, hnone, hnow.trans hmade, habove, hworking⟩

/-- One more run adds what it changes alone. -/
theorem step (hafter : now.ChangesBelow here (stem t) after)
    (hahead : Ahead (Near (here ++ [stem t])) (MadeAbove here disk now) (alone t) after) :
    SumOf alone (done ++ [t]) disk after where
  working := hafter.working.trans hsum.working
  changed u hu l hchanged := by
    rcases List.mem_append.mp hu with hu | hu
    · have hnow := hsum.changed u hu l hchanged
      rcases (hbelow u).kindAt? l with hsame | hinside | ⟨-, hmade, habove, -⟩
      · exact absurd hsame hchanged
      · rcases hafter.kindAt? l with hsame | hinside' | ⟨-, -, habove, -⟩
        · exact hsame.trans hnow
        · exact absurd (name_eq_of_near hinside (.inr hinside')) (happart u hu)
        · exact absurd habove (not_prefix_of_below hinside)
      · rcases hafter.kindAt? l with hsame | hinside | ⟨hnone, -⟩
        · exact hsame.trans hnow
        · exact absurd habove (not_prefix_of_below hinside)
        · cases (hnone.symm.trans hnow).trans hmade
    · obtain rfl := List.mem_singleton.mp hu
      have hnear : Near (here ++ [stem u]) l := by
        rcases (hbelow u).kindAt? l with hsame | hinside | ⟨-, -, habove, -⟩
        · exact absurd hsame hchanged
        · exact .inr hinside
        · exact near_of_above habove _
      rcases hahead.kindAt? l hnear with hsame | ⟨hnone, -, hbefore, -⟩
      · exact hsame
      · exact absurd (hnone.trans hbefore.symm) hchanged
  unchanged l hsame := by
    obtain ⟨hdone, halone⟩ := List.forall_mem_append.mp hsame
    have hnow := hsum.unchanged l hdone
    have halone : (alone t).kindAt? l = disk.kindAt? l := halone t List.mem_cons_self
    by_cases hnear : Near (here ++ [stem t]) l
    · rcases hahead.kindAt? l hnear with hsame | ⟨-, -, hbefore, hmade, -⟩
      · exact hsame.trans halone
      · cases (hbefore.symm.trans hnow.symm).trans hmade
    · rcases hafter.kindAt? l with hsame | hinside | ⟨-, -, habove, -⟩
      · exact hsame.trans hnow
      · exact absurd (.inr hinside) hnear
      · exact absurd (near_of_above habove _) hnear

end Step

end SumOf

end Disk

namespace Model

variable {model : Model} {config : Config} {output : String} {disk now : Disk} {s : Selection}

section Selected

variable (hselect : model.select config.element? = .ok s)
  (hblank : (Text.trim config.name).isEmpty = true)
  (houtput : ∀ c ∈ Path.components output, ∃ n, c = .normal n)
include hselect hblank houtput

/-- A run changes only what is below the directory of its component. -/
theorem changesBelow_generate (dryRun : Bool) (target : Target) (disk : Disk) :
    disk.ChangesBelow (disk.locate output) (s.stem config target)
      (model.generate config target output dryRun disk).1 := by
  have hstem : Path.IsName (s.stem config target) := Target.isName_stem hblank _ target
  rw [generate_of_select hselect]
  exact Writer.changesBelow_writeAll fun d hd => s.path_of_mem_drafts hstem houtput dryRun disk hd

/-- A run on a file system that is ahead comes to the same. -/
theorem alike_generate (dryRun : Bool) {target : Target}
    (h : Disk.Ahead (Disk.Near (disk.locate output ++ [s.stem config target]))
      (Disk.MadeAbove (disk.locate output) disk now) disk now) :
    Disk.Ahead.Alike (Disk.Near (disk.locate output ++ [s.stem config target]))
      (Disk.MadeAbove (disk.locate output) disk now)
      (model.generate config target output dryRun disk)
      (model.generate config target output dryRun now) := by
  have hstem : Path.IsName (s.stem config target) := Target.isName_stem hblank _ target
  have hclear : ∀ d ∈ (s.plan config target).drafts,
      (s.writer config target output dryRun).Clear
        (Disk.Near (disk.locate output ++ [s.stem config target]))
        (Disk.MadeAbove (disk.locate output) disk now) disk d := by
    intro d hd
    obtain ⟨hpath, hne, hplace⟩ := s.path_of_mem_drafts hstem houtput dryRun disk hd
    exact ⟨hpath, hne, fun l hl => List.prefix_or_prefix_of_prefix hl hplace,
      fun hmade => Disk.not_prefix_of_below hplace hmade.2.2.1⟩
  obtain ⟨hartifacts, hfailure, hahead⟩ := Writer.alike_writeAll h hclear
  rw [generate_of_select hselect, generate_of_select hselect]
  refine ⟨?_, hahead⟩
  dsimp only
  rw [hartifacts, hfailure]

end Selected

section Blank

variable (hblank : (Text.trim config.name).isEmpty = true)
  (houtput : ∀ c ∈ Path.components output, ∃ n, c = .normal n)
include hblank houtput

/-- A target comes to the same after others, and adds what it changes alone. -/
theorem generate_after {dryRun : Bool} {done : List Target} {target : Target}
    (hnew : target ∉ done)
    (hsum : Disk.SumOf (fun t => (model.generate config t output dryRun disk).1) done disk now) :
    (model.generate config target output dryRun now).2 =
        (model.generate config target output dryRun disk).2 ∧
      Disk.SumOf (fun t => (model.generate config t output dryRun disk).1) (done ++ [target]) disk
        (model.generate config target output dryRun now).1 := by
  cases hselect : model.select config.element? with
  | error e =>
      simp only [generate_of_error hselect] at hsum ⊢
      exact ⟨trivial, hsum.working, fun t _ l hchanged => absurd rfl hchanged,
        fun l _ => hsum.unchanged l fun _ _ => rfl⟩
  | ok s =>
      have hbelow := fun t => changesBelow_generate hselect hblank houtput dryRun t disk
      have happart : ∀ t ∈ done, s.stem config t ≠ s.stem config target := by
        intro t ht heq
        exact hnew (Target.stem_injective hblank _ heq ▸ ht)
      have hafter := changesBelow_generate hselect hblank houtput dryRun target now
      rw [Disk.locate_eq_of_working hsum.working] at hafter
      obtain ⟨hresult, hahead⟩ :=
        alike_generate hselect hblank houtput dryRun (hsum.ahead hbelow happart)
      exact ⟨hresult, hsum.step hbelow happart hafter hahead⟩

/-- Different targets one after the other come to what each of them comes to alone. -/
theorem generateAll_after {dryRun : Bool} {done order : List Target}
    (hnodup : (done ++ order).Nodup)
    (hsum : Disk.SumOf (fun t => (model.generate config t output dryRun disk).1) done disk now) :
    (model.generateAll config output dryRun order now).2 =
        order.map (fun t => (model.generate config t output dryRun disk).2) ∧
      Disk.SumOf (fun t => (model.generate config t output dryRun disk).1) (done ++ order) disk
        (model.generateAll config output dryRun order now).1 := by
  induction order generalizing done now with
  | nil =>
      rw [List.append_nil]
      exact ⟨rfl, hsum⟩
  | cons target order ih =>
      have hnew : target ∉ done := fun hmem =>
        (List.nodup_append.mp hnodup).2.2 target hmem target List.mem_cons_self rfl
      obtain ⟨hresult, hnext⟩ := generate_after hblank houtput hnew hsum
      rw [List.append_cons] at hnodup ⊢
      obtain ⟨hresults, hlast⟩ := ih hnodup hnext
      exact ⟨congrArg₂ _ hresult hresults, hlast⟩

end Blank

/-- On a plain disk all orders come to what the targets come to alone. -/
theorem generateAll_of_perm (model : Model) {config : Config}
    (hblank : (Text.trim config.name).isEmpty = true) {output : String}
    (houtput : ∀ c ∈ Path.components output, ∃ n, c = .normal n) (dryRun : Bool)
    {order : List Target} (horder : order.Perm Target.all) (disk : Disk) :
    (model.generateAll config output dryRun order disk).2 =
        order.map (fun t => (model.generate config t output dryRun disk).2) ∧
      Disk.SumOf (fun t => (model.generate config t output dryRun disk).1) Target.all disk
        (model.generateAll config output dryRun order disk).1 ∧
      ∀ other : List Target, other.Perm Target.all → ∀ l,
        (model.generateAll config output dryRun other disk).1.kindAt? l =
          (model.generateAll config output dryRun order disk).1.kindAt? l := by
  have hall (order : List Target) (horder : order.Perm Target.all) :
      (model.generateAll config output dryRun order disk).2 =
          order.map (fun t => (model.generate config t output dryRun disk).2) ∧
        Disk.SumOf (fun t => (model.generate config t output dryRun disk).1) Target.all disk
          (model.generateAll config output dryRun order disk).1 := by
    have hnodup : ([] ++ order).Nodup := horder.nodup_iff.mpr (by decide)
    obtain ⟨hresults, hsum⟩ := generateAll_after hblank houtput hnodup
      (.nil (fun t => (model.generate config t output dryRun disk).1) disk)
    exact ⟨hresults, hsum.of_perm horder⟩
  obtain ⟨hresults, hsum⟩ := hall order horder
  exact ⟨hresults, hsum, fun other hother => hsum.kindAt?_eq (hall other hother).2⟩

theorem generateAll_map {σ τ : Type} [FileSystem σ] [FileSystem τ] {f : σ → τ}
    (h : FileSystem.Agrees f) (model : Model) (config : Config) (output : String) (dryRun : Bool)
    (targets : List Target) (disk : σ) :
    model.generateAll config output dryRun targets (f disk) =
      (model.generateAll config output dryRun targets disk).map f id := by
  induction targets generalizing disk with
  | nil => rfl
  | cons target targets ih =>
      rw [generateAll, generateAll, generate_map h]
      rcases model.generate config target output dryRun disk with ⟨after, result⟩
      simp only [Prod.map, id_eq, ih]

/-- Where the component is named by the element and the output leads through names, the form, the
table and the cards never interfere, whatever the file system holds besides links: in every order each run
ends as it does alone, and each place holds what a run leaves there alone, or what it held before if none
of them changes it.  So all orders leave the same. -/
theorem generateAll_independent (model : Model) {config : Config}
    (hblank : (Text.trim config.name).isEmpty = true) {output : String}
    (houtput : ∀ c ∈ Path.components output, ∃ n, c = .normal n) (dryRun : Bool)
    {order : List Target} (horder : order.Perm Target.all) {disk : LinkedDisk}
    (hlinks : disk.links = []) :
    let after := fun order => (model.generateAll config output dryRun order disk).1
    let alone := fun t => (model.generate config t output dryRun disk).1
    (model.generateAll config output dryRun order disk).2 =
        order.map (fun t => (model.generate config t output dryRun disk).2) ∧
      Disk.SumOf (fun t => (alone t).disk) Target.all disk.disk (after order).disk ∧
      (after order).links = [] ∧
      ∀ other : List Target, other.Perm Target.all → ∀ l,
        (after other).disk.kindAt? l = (after order).disk.kindAt? l := by
  obtain ⟨plain, rfl⟩ : ∃ plain : Disk, disk = plain.unlinked := ⟨disk.disk, by rw [Disk.unlinked, ← hlinks]⟩
  simp only [generate_map Disk.agrees_unlinked, generateAll_map Disk.agrees_unlinked]
  obtain ⟨hresults, hsum, horders⟩ :=
    generateAll_of_perm model hblank houtput dryRun horder plain
  exact ⟨hresults, hsum, rfl, horders⟩

end Model

namespace IndependenceWitness

open FreshRunWitness (text disk)

def model : Model :=
  ⟨⟨"Reading", none, [text (.scalar "http://www.w3.org/2001/XMLSchema#string") "low"]⟩, []⟩

/-- The run of a target where nothing is in the file system, not even the output. -/
def alone (target : Target) : LinkedDisk × Except Failure Report :=
  model.generate {} target "out" false disk.unlinked

theorem succeeds (t : Target) :
    (alone t).2.isOk = true ∧ (alone t).1.disk.kindAt? ["out"] = some .directory := by
  cases t <;> decide +kernel

theorem generateAll_independent_of_reading :
    let all := model.generateAll {} "out" false [.card, .form, .table] disk.unlinked
    all.2 = [(alone .card).2, (alone .form).2, (alone .table).2] ∧
      (∀ t, (alone t).2.isOk = true) ∧
      disk.kindAt? ["out"] = none ∧ all.1.disk.kindAt? ["out"] = some .directory ∧
      ∀ other : List Target, other.Perm Target.all → ∀ l,
        (model.generateAll {} "out" false other disk.unlinked).1.disk.kindAt? l =
          all.1.disk.kindAt? l := by
  have hblank : (Text.trim ({} : Config).name).isEmpty = true := by decide +kernel
  have houtput : ∀ c ∈ Path.components "out", ∃ n, c = .normal n := by
    have hnames : Path.components "out" = [.normal "out"] := by decide +kernel
    simp [hnames]
  have horder : [Target.card, .form, .table].Perm Target.all := by decide
  have hlinks : disk.unlinked.links = [] := rfl
  obtain ⟨hresults, hsum, _, horders⟩ :=
    Model.generateAll_independent model hblank houtput false horder hlinks
  have hnone : disk.kindAt? ["out"] = none := rfl
  obtain ⟨_, hmade⟩ := succeeds .card
  unfold alone at hmade
  have hcard := hsum.changed .card (by decide) ["out"]
  dsimp only at hcard
  rw [hmade] at hcard
  exact ⟨hresults, fun t => (succeeds t).1, hnone, hcard (hnone ▸ nofun), horders⟩

def cardClass : Location := ["out", "reading-card", "reading-card.component.ts"]

/-- A disk on which a link leads from the class of the table to that of the cards. -/
def linked : LinkedDisk where
  disk := ⟨.directory [("out",
    .directory [("reading-card", .directory []), ("reading-table", .directory [])])], []⟩
  links := [(["out", "reading-table", "reading-table.component.ts"], cardClass)]

/-- A disk that is full after some operations. -/
def full : FaultyDisk :=
  ⟨disk, List.replicate 7 none ++ [some ⟨.noSpace, some 0⟩]⟩

/-- What became of the files of a run. -/
def outcomes (result : Except Failure Report) : Option (List Outcome) :=
  result.toOption.map fun report => report.artifacts.map Artifact.outcome

/-- Through a link the order of the targets tells which files are written, and with what, and the table
comes to less than alone.  So it does after the cards where it has no room left. -/
theorem linked_files_interfere :
    let run := fun order => model.generateAll {} "out" false order linked
    (run [.card, .table, .form]).1.disk.kindAt? cardClass ≠
        (run [.table, .card, .form]).1.disk.kindAt? cardClass ∧
      outcomes (model.generate {} .table "out" false linked).2 = some [.written, .written] ∧
      (run [.card, .table, .form]).2[1]?.map outcomes = some (some [.skipped, .written]) ∧
      outcomes (model.generate {} .table "out" false full).2 = some [.written, .written] ∧
      (model.generateAll {} "out" false [.card, .table, .form] full).2[1]?.map outcomes =
        some none := by
  decide +kernel

end IndependenceWitness

end AspectForms
