import AspectForms.Generate
import AspectForms.Proofs.Composition
import AspectForms.Proofs.Paths
import AspectForms.Proofs.Spelling

/-!
Where the components of a form stand.  Main statement: a file of a form is told by the directories that
its component has a name for and by the start of its own name, and by nothing else.
-/

namespace AspectForms

open Component (codeFile markupFile)

/-- Induction over a field and the fields inside it. -/
theorem Field.induction {P : Field → Prop}
    (step : ∀ f, (∀ g ∈ f.children, P g) → P f) (f : Field) : P f := by
  induction f using Field.rec
    (motive_2 := fun fs? => ∀ g ∈ fs?.getD [], P g)
    (motive_3 := fun fs => ∀ g ∈ fs, P g) with
  | mk n d k vs x values u children? format placeholder hint rule ih =>
      exact step _ ih
  | none g hg => cases hg
  | some fs ih g hg => exact ih g hg
  | nil g hg => cases hg
  | cons f fs ihf ihfs g hg =>
      rcases List.mem_cons.mp hg with rfl | hg
      · exact ihf
      · exact ihfs g hg

theorem insideAll_eq (t : Trail) (fs : List Field) :
    insideAll t fs = fs.flatMap (Field.inside t) := by
  induction fs with
  | nil => rfl
  | cons f fs ih => rw [insideAll, ih, List.flatMap_cons]

/-- A field comes after the fields inside it. -/
theorem inside_eq (t : Trail) (f : Field) :
    f.inside t = insideAll (t.down f) f.children ++ [⟨t, f⟩] := by
  obtain ⟨n, d, k, vs, x, values, u, children?, format, placeholder, hint, rule⟩ := f
  cases children? <;> rfl

theorem Field.OccursIn.trans {fs gs : List Field} {f : Field}
    (h : Field.OccursIn fs f) (hfs : ∀ g ∈ fs, Field.OccursIn gs g) :
    Field.OccursIn gs f := by
  induction h with
  | top hf => exact hfs _ hf
  | inside _ hg ih => exact ih.inside hg

/-- The names of the directories from that of the form to that of the field. -/
def PlacedField.dashes (p : PlacedField) : List String :=
  (p.trail.down p.field).dashes

/-- What holds of the names above a field and inside it holds on every way to
what is inside it. -/
theorem forall_dashes_inside {P : String → Prop} {t : Trail} {f : Field}
    (ht : ∀ n ∈ t.dashes, P n)
    (hf : ∀ g, Field.OccursIn [f] g → P g.dashed) :
    ∀ p ∈ f.inside t, ∀ n ∈ p.dashes, P n := by
  induction f using Field.induction generalizing t with
  | step f ih =>
      have hdown : ∀ n ∈ (t.down f).dashes, P n := by
        intro n hn
        rcases List.mem_append.mp hn with hn | hn
        · exact ht n hn
        · exact List.mem_singleton.mp hn ▸ hf f (.top List.mem_cons_self)
      intro p hp
      rw [inside_eq, insideAll_eq, List.mem_append] at hp
      rcases hp with hp | hp
      · obtain ⟨g, hg, hp⟩ := List.mem_flatMap.mp hp
        refine ih g hg hdown ?_ p hp
        intro e he
        apply hf e
        apply he.trans
        intro d hd
        obtain rfl := List.mem_singleton.mp hd
        exact .inside (.top List.mem_cons_self) hg
      · obtain rfl := List.mem_singleton.mp hp
        exact hdown

theorem forall_dashes_placedFields {P : String → Prop} {fields : List Field}
    (h : ∀ f, Field.OccursIn fields f → P f.dashed) :
    ∀ p ∈ placedFields fields, ∀ n ∈ p.dashes, P n := by
  intro p hp
  rw [placedFields, insideAll_eq] at hp
  obtain ⟨f, hf, hp⟩ := List.mem_flatMap.mp hp
  refine forall_dashes_inside nofun ?_ p hp
  intro g hg
  apply h g
  apply hg.trans
  intro d hd
  exact List.mem_singleton.mp hd ▸ .top hf

theorem pathSafe_dashed {config : Config} {e : Element DataType} {f : Field}
    (hf : Field.OccursIn (e.fields config) f) : Text.PathSafe f.dashed := by
  obtain ⟨p, _, rfl⟩ := Element.occursIn_fields_iff.mp hf
  rw [composeField_eq, PropertyOf.dashed_toField]
  exact Text.pathSafe_kebabCase p.name

theorem pathSafe_stem (config : Config) (element : String) (target : Target) :
    Text.PathSafe (config.stem element target) := by
  unfold Config.stem
  split <;> exact Text.pathSafe_kebabCase _

/-- Where the files of a component stand: the directories that have a name,
from that of the form on, and what the names of the files start with. -/
structure Place where
  directories : List String
  stem : String
deriving DecidableEq

/-- The place of a component that stands in the directories of some names. -/
def placeOf (names : List String) (stem : String) : Place :=
  ⟨names.filter (!·.isEmpty), stem⟩

def PlacedField.place (p : PlacedField) : Place := placeOf p.dashes p.field.dashed

/-- What the names of the two files of a component end in. -/
def endings : List String := [".component.ts", ".component.html"]

/-- The steps to the files of a component. -/
def Place.steps (p : Place) : List (List String) :=
  endings.map fun ending => p.directories ++ [p.stem ++ ending]

/-- The places of the components of a form, its own last. -/
def Form.places (stem : String) (fields : List Field) : List Place :=
  (placedFields fields).map PlacedField.place ++ [placeOf [] stem]

/-- The steps to the file of the shared validators. -/
def sharedSteps : List String := ["shared", "form-validators.ts"]

/-- The steps to the files of a form, in the order in which they are
written. -/
def Form.steps (stem : String) (fields : List Field) : List (List String) :=
  sharedSteps :: (Form.places stem fields).flatMap Place.steps

/-- The steps lead through directories with plain names to a file whose name
has a dot. -/
def LeadsToFile (steps : List String) : Prop :=
  ∃ directories file, steps = directories ++ [file] ∧
    (∀ d ∈ directories, d ≠ "" ∧ Text.PathSafe d) ∧
    '/' ∉ file.toList ∧ '.' ∈ file.toList ∧ file ≠ "." ∧ file ≠ ".."

namespace LeadsToFile

variable {steps others : List String}

theorem plain (h : LeadsToFile steps) :
    ∀ n ∈ steps, n ≠ "" ∧ '/' ∉ n.toList := by
  obtain ⟨directories, file, rfl, hdirectories, hslash, hdot, _⟩ := h
  intro n hn
  rcases List.mem_append.mp hn with hn | hn
  · obtain ⟨hne, hsafe⟩ := hdirectories n hn
    exact ⟨hne, fun hmem => (hsafe _ hmem).1 rfl⟩
  · obtain rfl := List.mem_singleton.mp hn
    refine ⟨?_, hslash⟩
    rintro rfl
    cases hdot

theorem not_dots (h : LeadsToFile steps) :
    ∀ n ∈ steps, n ≠ "." ∧ n ≠ ".." := by
  obtain ⟨directories, file, rfl, hdirectories, _, _, hfile⟩ := h
  intro n hn
  rcases List.mem_append.mp hn with hn | hn
  · have hsafe := (hdirectories n hn).2 '.'
    constructor
    · rintro rfl
      exact (hsafe (by decide)).2.2.1 rfl
    · rintro rfl
      exact (hsafe (by decide)).2.2.1 rfl
  · exact List.mem_singleton.mp hn ▸ hfile

theorem isName (h : LeadsToFile steps) : ∀ n ∈ steps, Path.IsName n := by
  intro n hn
  obtain ⟨hne, hslash⟩ := h.plain n hn
  exact Path.isName_iff.mpr ⟨hne, hslash, h.not_dots n hn⟩

/-- No file stands below another one. -/
theorem eq_of_prefix (h : LeadsToFile steps) (hother : LeadsToFile others)
    (hle : steps <+: others) : steps = others := by
  obtain ⟨directories, file, rfl, _, _, hdot, _⟩ := h
  obtain ⟨above, below, rfl, habove, _⟩ := hother
  rcases List.prefix_concat_iff.mp hle with heq | hinside
  · exact heq
  · have hmem : file ∈ above := hinside.mem (List.mem_append_right _ List.mem_cons_self)
    exact absurd rfl ((habove file hmem).2 '.' hdot).2.2.1

end LeadsToFile

/-- A place of which all names are safe in paths. -/
structure Place.Safe (p : Place) : Prop where
  directories : ∀ d ∈ p.directories, d ≠ "" ∧ Text.PathSafe d
  stem : Text.PathSafe p.stem

theorem safe_placeOf {names : List String} {stem : String}
    (hnames : ∀ n ∈ names, Text.PathSafe n) (hstem : Text.PathSafe stem) :
    (placeOf names stem).Safe where
  directories d hd := by
    obtain ⟨hmem, hne⟩ := List.mem_filter.mp hd
    exact ⟨by simpa using hne, hnames d hmem⟩
  stem := hstem

namespace Place

variable {p q : Place}

theorem leadsToFile_steps (hp : p.Safe) : ∀ s ∈ p.steps, LeadsToFile s := by
  intro s hs
  obtain ⟨ending, hending, rfl⟩ := List.mem_map.mp hs
  have hplain : ∀ ending ∈ endings,
      '/' ∉ ending.toList ∧ '.' ∈ ending.toList ∧ 2 < ending.length := by
    decide
  obtain ⟨hslash, hdot, hlong⟩ := hplain ending hending
  refine ⟨_, _, rfl, hp.directories, ?_, ?_, ?_, ?_⟩
  · intro hmem
    rw [String.toList_append, List.mem_append] at hmem
    rcases hmem with hmem | hmem
    · exact (hp.stem _ hmem).1 rfl
    · exact hslash hmem
  · rw [String.toList_append]
    exact List.mem_append_right _ hdot
  · intro heq
    have hlength := congrArg String.length heq
    have hshort : (".").length = 1 := rfl
    rw [String.length_append] at hlength
    omega
  · intro heq
    have hlength := congrArg String.length heq
    have hshort : ("..").length = 2 := rfl
    rw [String.length_append] at hlength
    omega

end Place

/-- The name of a file tells its stem and its ending. -/
theorem ending_inj {m n e d : String} (he : e ∈ endings) (hd : d ∈ endings)
    (h : m ++ e = n ++ d) : m = n ∧ e = d := by
  have hlist := congrArg String.toList h
  rw [String.toList_append, String.toList_append] at hlist
  have hends : ∀ e ∈ endings, ∀ d ∈ endings,
      e.toList.getLast? = d.toList.getLast? → e = d := by decide
  have hsome : ∀ e ∈ endings, e.toList.getLast?.isSome = true := by decide
  have hlast := congrArg List.getLast? hlist
  rw [List.getLast?_append, List.getLast?_append,
    Option.or_of_isSome (hsome e he), Option.or_of_isSome (hsome d hd)] at hlast
  obtain rfl := hends e he d hd hlast
  exact ⟨String.toList_inj.mp (List.append_cancel_right hlist), rfl⟩

namespace Place

variable {p q : Place}

theorem disjoint_steps (hne : p ≠ q) : List.Disjoint p.steps q.steps := by
  intro s hp hq
  obtain ⟨e, he, rfl⟩ := List.mem_map.mp hp
  obtain ⟨d, hd, heq⟩ := List.mem_map.mp hq
  obtain ⟨hdirectories, hfile⟩ := List.append_inj' heq rfl
  obtain ⟨hstem, _⟩ := ending_inj hd he (List.singleton_inj.mp hfile)
  cases p
  cases q
  exact hne (by congr; exacts [hdirectories.symm, hstem.symm])

theorem nodup_steps (p : Place) : p.steps.Nodup := by
  refine List.Nodup.map_on ?_ (by decide)
  intro e he d hd heq
  obtain ⟨_, hfile⟩ := List.append_inj' heq rfl
  exact (ending_inj he hd (List.singleton_inj.mp hfile)).2

theorem sharedSteps_not_mem (p : Place) : sharedSteps ∉ p.steps := by
  intro hmem
  obtain ⟨e, he, heq⟩ := List.mem_map.mp hmem
  have hlast := congrArg List.getLast? heq
  rw [List.getLast?_append] at hlast
  have hfile : p.stem ++ e = "form-validators.ts" := Option.some.inj hlast
  have hsuffix : e.toList <:+ "form-validators.ts".toList := by
    rw [← hfile, String.toList_append]
    exact List.suffix_append _ _
  have hno : ∀ e ∈ endings, ¬e.toList <:+ "form-validators.ts".toList := by decide
  exact hno e he hsuffix

end Place

/-- The files of a form are distinct exactly if the places of its components
are. -/
theorem Form.nodup_steps_iff {stem : String} {fields : List Field} :
    (Form.steps stem fields).Nodup ↔ (Form.places stem fields).Nodup := by
  rw [Form.steps, List.nodup_cons, List.nodup_flatMap]
  constructor
  · rintro ⟨_, _, hdisjoint⟩
    refine hdisjoint.imp ?_
    rintro p q hpq rfl
    exact hpq List.mem_cons_self List.mem_cons_self
  · intro hnodup
    refine ⟨?_, fun p _ => p.nodup_steps, hnodup.imp Place.disjoint_steps⟩
    intro hmem
    obtain ⟨p, _, hp⟩ := List.mem_flatMap.mp hmem
    exact p.sharedSteps_not_mem hp

theorem not_mem_slash {s : String} (h : Text.PathSafe s) : '/' ∉ s.toList :=
  fun hmem => (h _ hmem).1 rfl

/-- The paths of a component are those to the files of its place. -/
theorem Component.paths_drafts {c : Component} {names : List String}
    (hdirectory : c.directory = Path.ofNames names)
    (hnames : ∀ n ∈ names, '/' ∉ n.toList) (hstem : '/' ∉ c.stem.toList) :
    c.drafts.map Draft.path = (placeOf names c.stem).steps.map Path.through := by
  have hpush : ∀ ending ∈ endings,
      Path.push c.directory (c.stem ++ ending) =
        Path.through ((placeOf names c.stem).directories ++ [c.stem ++ ending]) := by
    intro ending hending
    rw [hdirectory, Path.push_ofNames hnames]
    · rfl
    · have hplain : ∀ ending ∈ endings, '/' ∉ ending.toList := by decide
      rw [String.toList_append, List.mem_append, not_or]
      exact ⟨hstem, hplain ending hending⟩
  rw [Place.steps, List.map_map]
  exact List.map_congr_left hpush

theorem PlacedField.dashed_mem_dashes (p : PlacedField) :
    p.field.dashed ∈ p.dashes :=
  List.mem_append_right _ List.mem_cons_self

theorem PlacedField.directory_component (p : PlacedField) :
    p.component.directory = Path.ofNames p.dashes := by
  unfold component Field.component
  split <;> rfl

theorem PlacedField.stem_component (p : PlacedField) :
    p.component.stem = p.field.dashed := by
  unfold component Field.component
  split <;> rfl

namespace Form

variable {stem title : String} {fields : List Field}
  (hfields : ∀ f, Field.OccursIn fields f → Text.PathSafe f.dashed)
  (hstem : Text.PathSafe stem)

include hfields hstem

theorem safe_of_mem_places : ∀ p ∈ places stem fields, p.Safe := by
  have hdashes := forall_dashes_placedFields hfields
  intro place hplace
  rcases List.mem_append.mp hplace with hplace | hplace
  · obtain ⟨p, hp, rfl⟩ := List.mem_map.mp hplace
    exact safe_placeOf (hdashes p hp) (hdashes p hp _ p.dashed_mem_dashes)
  · exact List.mem_singleton.mp hplace ▸ safe_placeOf nofun hstem

theorem leadsToFile_of_mem_steps : ∀ s ∈ steps stem fields, LeadsToFile s := by
  intro s hs
  rcases List.mem_cons.mp hs with rfl | hs
  · refine ⟨["shared"], "form-validators.ts", rfl, ?_, ?_⟩
    · have hshared : Text.PathSafe (Text.kebabCase "shared") :=
        Text.pathSafe_kebabCase "shared"
      have hkebab : Text.kebabCase "shared" = "shared" := by decide +kernel
      rw [hkebab] at hshared
      intro d hd
      obtain rfl := List.mem_singleton.mp hd
      exact ⟨nofun, hshared⟩
    · decide
  · obtain ⟨p, hp, hs⟩ := List.mem_flatMap.mp hs
    exact Place.leadsToFile_steps (safe_of_mem_places hfields hstem p hp) s hs

end Form

namespace Form

variable {stem title : String} {fields : List Field}

/-- The paths of a form are those to its files, if no name has a slash. -/
theorem paths_drafts_of_not_mem
    (hfields : ∀ f, Field.OccursIn fields f → '/' ∉ f.dashed.toList)
    (hstem : '/' ∉ stem.toList) :
    (drafts stem title fields).map Draft.path =
      (steps stem fields).map Path.through := by
  have hdashes : ∀ p ∈ placedFields fields, ∀ n ∈ p.dashes, '/' ∉ n.toList :=
    forall_dashes_placedFields hfields
  have hinner : ∀ p ∈ placedFields fields,
      p.component.drafts.map Draft.path = p.place.steps.map Path.through := by
    intro p hp
    have hpaths := Component.paths_drafts p.directory_component (hdashes p hp)
      (p.stem_component ▸ hdashes p hp _ p.dashed_mem_dashes)
    rw [p.stem_component] at hpaths
    exact hpaths
  have hown : (component stem title fields).drafts.map Draft.path =
      (placeOf [] stem).steps.map Path.through :=
    Component.paths_drafts rfl nofun hstem
  have hshared : sharedDraft.path = Path.through sharedSteps := by decide
  rw [drafts, steps, places, List.map_cons, List.map_cons, hshared,
    List.map_append, List.flatMap_append, List.map_append, List.map_flatMap,
    List.flatMap_map, List.map_flatMap, hown, List.flatMap_singleton]
  congr 2
  exact List.flatMap_congr hinner

theorem paths_drafts (hfields : ∀ f, Field.OccursIn fields f → Text.PathSafe f.dashed)
    (hstem : Text.PathSafe stem) :
    (drafts stem title fields).map Draft.path =
      (steps stem fields).map Path.through :=
  paths_drafts_of_not_mem (fun f hf => not_mem_slash (hfields f hf))
    (not_mem_slash hstem)

end Form

end AspectForms
