import AspectForms.Proofs.ColumnKeys
import AspectForms.Proofs.Containment
import AspectForms.Proofs.FileReferences
import AspectForms.Proofs.Independence
import AspectForms.Proofs.NameWords

/-!
Names that come out empty.  Main statement: in a form of a model without bad property names every
file, directory and class has a name of its own exactly if every field and the component have a
letter or number in theirs.  Lint lets a name of underscores and dollar signs pass, and a
component name that is not blank stands for itself.
-/

namespace AspectForms

namespace Lint

theorem isAlphanumeric_of_isAlphanum {c : Char} (h : c.isAlphanum = true) :
    Text.isAlphanumeric c = true := by
  have hascii : c.toNat < 0x80 := by
    have hspans : ((decide (c.val ≥ 'A'.val ∧ c.val ≤ 'Z'.val) ||
        (decide (c.val ≥ 'a'.val) && decide (c.val ≤ 'z'.val))) ||
        (decide (c.val ≥ '0'.val) && decide (c.val ≤ '9'.val))) = true := h
    simp only [Bool.or_eq_true, Bool.and_eq_true, decide_eq_true_eq,
      UInt32.le_iff_toNat_le] at hspans
    rcases hspans with (⟨_, hlast⟩ | ⟨_, hlast⟩) | ⟨_, hlast⟩ <;>
      exact Nat.lt_of_le_of_lt hlast (by decide)
  rw [Text.isAlphanumeric, if_pos hascii]
  exact h

/-- A name that can name a member has letters, numbers and the two marks only. -/
theorem of_mem_of_isIdentifier {name : String} (h : isIdentifier name = true) {c : Char}
    (hc : c ∈ name.toList) : Text.isAlphanumeric c = true ∨ c = '_' ∨ c = '$' := by
  unfold isIdentifier at h
  have hplain : (c.isAlphanum || c == '_' || c == '$') = true := by
    cases hname : name.toList with
    | nil =>
        rw [hname] at hc
        cases hc
    | cons d ds =>
        rw [hname] at h hc
        obtain ⟨hfirst, hrest⟩ := Bool.and_eq_true_iff.mp h
        rcases List.mem_cons.mp hc with rfl | hc
        · simp only [Char.isAlphanum, Bool.or_eq_true] at hfirst ⊢
          rcases hfirst with (hfirst | hfirst) | hfirst <;> simp [hfirst]
        · exact List.all_eq_true.mp hrest c hc
  simp only [Bool.or_eq_true, beq_iff_eq] at hplain
  rcases hplain with (hletter | hmark) | hmark
  · exact .inl (isAlphanumeric_of_isAlphanum hletter)
  · exact .inr (.inl hmark)
  · exact .inr (.inr hmark)

theorem hasLetter_iff_of_isIdentifier {name : String} (h : isIdentifier name = true) :
    Text.HasLetter name ↔ ∃ c ∈ name.toList, c ≠ '_' ∧ c ≠ '$' := by
  constructor
  · rintro ⟨c, hc, hletter⟩
    refine ⟨c, hc, ?_, ?_⟩
    · rintro rfl
      exact absurd hletter (by decide +kernel)
    · rintro rfl
      exact absurd hletter (by decide +kernel)
  · rintro ⟨c, hc, hscore, hdollar⟩
    rcases of_mem_of_isIdentifier h hc with hletter | rfl | rfl
    · exact ⟨c, hc, hletter⟩
    · exact absurd rfl hscore
    · exact absurd rfl hdollar

end Lint

/-- The component has a name in its files if its configured one is blank or has
a letter or number. -/
theorem Config.stem_ne_empty_iff (config : Config) (element : String) (target : Target) :
    config.stem element target ≠ "" ↔
      (Text.trim config.name).isEmpty = true ∨ Text.HasLetter config.name := by
  by_cases hblank : (Text.trim config.name).isEmpty = true
  · have hname := Target.isName_stem hblank element target
    exact iff_of_true hname.plain.1 (.inl hblank)
  · rw [Config.stem, if_neg hblank, Text.kebabCase_ne_empty_iff]
    simp [hblank]

theorem Config.hasLetter_stem {config : Config} {element : String} {target : Target}
    (h : config.stem element target ≠ "") : Text.HasLetter (config.stem element target) := by
  obtain ⟨name, hname⟩ : ∃ name, config.stem element target = Text.kebabCase name := by
    unfold stem
    split <;> exact ⟨_, rfl⟩
  rw [hname] at h ⊢
  exact Text.hasLetter_kebabCase (Text.kebabCase_ne_empty_iff.mp h)

theorem className_ne_component_iff {segments : List String} :
    className segments ≠ "Component" ↔ ∃ s ∈ segments, Text.HasLetter s := by
  have hjoin (parts : List String) : String.join parts ≠ "" ↔ ∃ p ∈ parts, p ≠ "" := by
    induction parts with
    | nil => simp
    | cons p ps ih =>
        rw [String.join_cons, Ne, String.append_eq_empty_iff, not_and_or, List.exists_mem_cons_iff]
        exact or_congr_right ih
  rw [className, Ne, String.append_eq_right_iff, ← Ne, hjoin]
  simp [← Text.upperCamelCase_ne_empty_iff]

theorem Element.dashed_eq {e : Element DataType} {config : Config} {f : Field}
    (hf : Field.OccursIn (e.fields config) f) : f.dashed = Text.kebabCase f.name := by
  obtain ⟨p, _, rfl⟩ := occursIn_fields_iff.mp hf
  rw [name_composeField, composeField_eq, PropertyOf.dashed_toField]

/-- The directory of some names has the pieces that are not empty. -/
theorem Path.pieces_ofNames_filter {names : List String} (h : ∀ n ∈ names, '/' ∉ n.toList) :
    pieces (ofNames names) = names.filter (!·.isEmpty) := by
  induction names using List.reverseRecOn with
  | nil => decide
  | append_singleton names n ih =>
      have hbefore : ∀ m ∈ names, '/' ∉ m.toList := fun m hm =>
        h m (List.mem_append_left _ hm)
      have hn : '/' ∉ n.toList := h n (List.mem_append_right _ List.mem_cons_self)
      have hlast : pieces n = [n].filter (!·.isEmpty) := by
        rw [pieces, Text.splitOn, Text.splitWhen_of_not_mem hn, List.map_singleton,
          String.ofList_toList]
      have hstep : ofNames (names ++ [n]) = push (ofNames names) n := by
        rw [ofNames, List.foldl_append]
        rfl
      rw [hstep, pieces_push (isAbsolute_of_not_mem hn), ih hbefore, hlast, List.filter_append]

/-- A file is called by more than its ending where the names it is made of are not empty. -/
theorem Form.getLast?_ne_ending {stem : String} {fields : List Field} (hstem : stem ≠ "")
    (hfields : ∀ f, Field.OccursIn fields f → f.dashed ≠ "") {way : List String}
    (hway : way ∈ steps stem fields) {ending : String} (hending : ending ∈ endings) :
    way.getLast? ≠ some ending := by
  have hplaces : ∀ p ∈ places stem fields, p.stem ≠ "" := by
    intro p hp
    rcases List.mem_append.mp hp with hp | hp
    · obtain ⟨placed, hplaced, rfl⟩ := List.mem_map.mp hp
      exact Field.forall_occursIn_iff.mp hfields placed hplaced
    · exact List.mem_singleton.mp hp ▸ hstem
  rcases List.mem_cons.mp hway with rfl | hway
  · have hshared : ∀ e ∈ endings, sharedSteps.getLast? ≠ some e := by decide
    exact hshared ending hending
  · obtain ⟨p, hp, hway⟩ := List.mem_flatMap.mp hway
    obtain ⟨e, he, rfl⟩ := List.mem_map.mp hway
    rw [List.getLast?_concat]
    intro heq
    have hsame : p.stem ++ e = "" ++ ending := by
      rw [String.empty_append]
      exact Option.some.inj heq
    exact hplaces p hp (ending_inj he hending hsame).1

namespace Selection

variable (s : Selection) (config : Config)

/-- Everything that a run of a form derives from a name has a name of its own. -/
structure NamesAll (output : String) (report : Report) : Prop where
  /-- No file is called by its ending alone. -/
  files : ∀ a ∈ report.artifacts, ∀ ending ∈ endings,
    (Path.pieces a.path).getLast? ≠ some ending
  /-- The directory of a field is as deep as the field. -/
  levels : ∀ n : Node, n.StandsIn (s.element.fields config) →
    (Path.pieces n.component.directory).length = n.names.length
  /-- The steps up that its imports make lead back to the directory of the form. -/
  imports : ∀ n : Node, n.StandsIn (s.element.fields config) →
    Path.moduleFile? n.component.directory (upLevels n.names.length ++ sharedModule) =
      some Form.sharedDraft.path
  /-- The directory of the form is one further down than the output. -/
  directory : ∃ name,
    Path.components report.directory = Path.components output ++ [.normal name]
  /-- The class of the form is not called like the one it is made with. -/
  form : className [s.stem config .form] ≠ "Component"
  /-- Nor is that of a field. -/
  classes : ∀ r ∈ report.components, r.className ≠ "Component"

variable {s config} {output : String} {report : Report}

/-- The names of fields and component have letters or numbers. -/
structure HasLetters (s : Selection) (config : Config) : Prop where
  stem : (Text.trim config.name).isEmpty = true ∨ Text.HasLetter config.name
  fields : ∀ f, Field.OccursIn (s.element.fields config) f → Text.HasLetter f.name

theorem dashed_ne_empty_iff {f : Field} (hf : Field.OccursIn (s.element.fields config) f) :
    f.dashed ≠ "" ↔ Text.HasLetter f.name := by
  rw [Element.dashed_eq hf, Text.kebabCase_ne_empty_iff]

theorem components_report (artifacts : List Artifact) :
    (s.report config .form output artifacts).components =
      Form.registrations (s.element.fields config) := by
  rw [report, plan]
  rfl

namespace HasLetters

variable (h : s.HasLetters config)
include h

theorem isName_stem : Path.IsName (s.stem config .form) := by
  have hsafe := pathSafe_stem config s.element.name .form
  apply Path.isName_of_not_mem ((config.stem_ne_empty_iff _ _).mpr h.stem) (not_mem_slash hsafe)
  exact fun hdot => (hsafe _ hdot).2.2.1 rfl

theorem isName_dashed {f : Field} (hf : Field.OccursIn (s.element.fields config) f) :
    Path.IsName f.dashed := by
  have hsafe := pathSafe_dashed hf
  apply Path.isName_of_not_mem ((dashed_ne_empty_iff hf).mpr (h.fields f hf))
    (not_mem_slash hsafe)
  exact fun hdot => (hsafe _ hdot).2.2.1 rfl

theorem namesAll {artifacts : List Artifact}
    (hpaths : artifacts.map Artifact.path = (s.plan config .form).drafts.map Draft.path) :
    s.NamesAll config output (s.report config .form output artifacts) where
  files a ha ending hending := by
    have hfields : ∀ f, Field.OccursIn (s.element.fields config) f → Text.PathSafe f.dashed :=
      fun f => pathSafe_dashed
    have hstem := pathSafe_stem config s.element.name .form
    have hpath : a.path ∈ artifacts.map Artifact.path := List.mem_map_of_mem ha
    rw [hpaths, plan, Selection.stem, Target.paths_plan hfields hstem] at hpath
    obtain ⟨way, hway, heq⟩ := List.mem_map.mp hpath
    have hplain := (Target.leadsToFile_of_mem_steps hfields hstem way hway).plain
    rw [← heq, Path.pieces_through hplain]
    exact Form.getLast?_ne_ending h.isName_stem.plain.1
      (fun f hf => (h.isName_dashed hf).plain.1) hway hending
  levels n hn := by
    have hnames := Node.forall_dashes hn fun f hf => h.isName_dashed hf
    rw [n.directory_component, Path.pieces_ofNames hnames, Node.dashes, Node.names,
      List.length_map, List.length_map]
  imports n hn := Form.moduleFile?_shared (fun f hf => h.isName_dashed hf) hn
  directory := by
    refine ⟨s.stem config .form, ?_⟩
    have hnames : ∀ n ∈ [s.stem config .form], Path.IsName n := by
      simpa using h.isName_stem
    have hthrough : Path.through [s.stem config .form] = s.stem config .form :=
      String.ofList_toList
    have hpush := Path.components_push_through hnames output
    rw [hthrough] at hpush
    rw [directory_report]
    exact hpush
  form := by
    have hne : s.stem config .form ≠ "" := h.isName_stem.plain.1
    have hletter : Text.HasLetter (s.stem config .form) := Config.hasLetter_stem hne
    exact className_ne_component_iff.mpr ⟨_, List.mem_singleton_self _, hletter⟩
  classes r hr := by
    rw [components_report] at hr
    obtain ⟨nodes, hnodes, hlist⟩ := exists_postorder_placedFields (s.element.fields config)
    rw [Form.registrations_eq hlist] at hr
    obtain ⟨n, hn, rfl⟩ := List.mem_map.mp hr
    have hfield := h.fields _ (Node.occursIn ((hnodes.mem_iff n).mp hn))
    refine className_ne_component_iff.mpr ⟨n.field.name, ?_, hfield⟩
    exact List.mem_map_of_mem (List.mem_append_right _ List.mem_cons_self)

end HasLetters

/-- Directories that are as deep as they should be take names with letters or numbers. -/
theorem NamesAll.hasLetters (h : s.NamesAll config output report)
    (hdirectory : report.directory = Path.push output (s.stem config .form)) :
    s.HasLetters config where
  stem := by
    apply (config.stem_ne_empty_iff s.element.name .form).mp
    intro hempty
    obtain ⟨name, hname⟩ := h.directory
    have hsame : Path.components (Path.push output "") = Path.components output ++ [] :=
      @Path.components_push_through [] nofun output
    rw [hdirectory, stem, hempty, hsame] at hname
    cases List.append_cancel_left hname
  fields f hf := by
    obtain ⟨n, hn, rfl⟩ := Node.exists_of_occursIn hf
    have hslash : ∀ d ∈ n.dashes, '/' ∉ d.toList :=
      Node.forall_dashes hn fun f hf => not_mem_slash (pathSafe_dashed hf)
    have hlevels := h.levels n hn
    have hlength : n.names.length = n.dashes.length := by
      rw [Node.names, Node.dashes, List.length_map, List.length_map]
    rw [n.directory_component, Path.pieces_ofNames_filter hslash, hlength,
      List.length_filter_eq_length_iff] at hlevels
    have hmem : n.field.dashed ∈ n.dashes :=
      List.mem_map_of_mem (List.mem_append_right _ List.mem_cons_self)
    exact (dashed_ne_empty_iff hf).mp (by simpa using hlevels _ hmem)

end Selection

/-- A name that lint accepts keeps a spelling if it is not made of underscores and dollar signs
alone, and a component name that is not blank if it has a letter or number.  So in a form of a
model without bad names every file, directory and class has a name of its own exactly if all
names of fields are such, and that of the component is such or blank. -/
theorem Document.namesAll_iff {doc : Document} {model : Model} {config : Config} {s : Selection}
    {output : String} {dryRun : Bool} {disk after : Disk} {report : Report}
    (h : doc.resolve = .ok model)
    (hlint : ∀ i ∈ model.lint, i.finding.kind ≠ "invalid_property_name")
    (hselect : model.select config.element? = .ok s)
    (hrun : model.generate config .form output dryRun disk = (after, .ok report)) :
    (∀ name, Lint.isIdentifier name = true →
      (Text.kebabCase name ≠ "" ↔ ∃ c ∈ name.toList, c ≠ '_' ∧ c ≠ '$')) ∧
    (∀ (config : Config) element target, config.stem element target ≠ "" ↔
      (Text.trim config.name).isEmpty = true ∨ Text.HasLetter config.name) ∧
    (s.NamesAll config output report ↔
      ((Text.trim config.name).isEmpty = true ∨ Text.HasLetter config.name) ∧
        ∀ f, Field.OccursIn (s.element.fields config) f →
          ∃ c ∈ f.name.toList, c ≠ '_' ∧ c ≠ '$') := by
  refine ⟨fun name hname => ?_, Config.stem_ne_empty_iff, ?_⟩
  · rw [Text.kebabCase_ne_empty_iff, Lint.hasLetter_iff_of_isIdentifier hname]
  · have he := Model.mem_of_select hselect
    have hletter {f : Field} (hf : Field.OccursIn (s.element.fields config) f) :
        Text.HasLetter f.name ↔ ∃ c ∈ f.name.toList, c ≠ '_' ∧ c ≠ '$' :=
      Lint.hasLetter_iff_of_isIdentifier (isIdentifier_name h hlint he hf)
    obtain ⟨hdirectory, _⟩ := Model.paths_generate hselect hrun
    constructor
    · intro hnames
      have hletters := hnames.hasLetters hdirectory
      exact ⟨hletters.stem, fun f hf => (hletter hf).mp (hletters.fields f hf)⟩
    · rintro ⟨hstem, hfields⟩
      obtain ⟨other, artifacts, hother, hprogress, rfl⟩ := Model.generate_eq_ok_iff.mp hrun
      obtain rfl := Except.ok.inj (hselect.symm.trans hother)
      have hletters : s.HasLetters config :=
        ⟨hstem, fun f hf => (hletter hf).mpr (hfields f hf)⟩
      exact hletters.namesAll (Writer.paths_of_writeAll hprogress)

namespace DerivedNamesWitness

open FreshRunWitness (document model disk resolve_reading artifacts? run_of_artifacts?)

theorem namesAll_iff_of_reading :
    (document "low" "high").resolve = .ok (model "low" "high") ∧
      (∀ i ∈ (model "low" "high").lint, i.finding.kind ≠ "invalid_property_name") ∧
      ∃ after report,
        (model "low" "high").generate {} .form "out" false disk = (after, .ok report) ∧
        (Selection.aspect (model "low" "high").aspect).NamesAll {} "out" report := by
  have hlint : ∀ i ∈ (model "low" "high").lint, i.finding.kind ≠ "invalid_property_name" := by
    decide +kernel
  have hselect : (model "low" "high").select ({} : Config).element? =
      .ok (.aspect (model "low" "high").aspect) := rfl
  have hsome : (artifacts? "low" "high").isSome = true := by decide +kernel
  obtain ⟨artifacts, hartifacts⟩ := Option.isSome_iff_exists.mp hsome
  obtain ⟨after, report, hrun, _⟩ := run_of_artifacts? hartifacts
  have hkept : ∀ f, Field.OccursIn ((model "low" "high").aspect.fields {}) f →
      f.name.toList.any (fun c => c != '_' && c != '$') = true := by
    rw [Field.forall_occursIn_iff]
    decide +kernel
  have hiff := (Document.namesAll_iff (resolve_reading _ _) hlint hselect hrun).2.2
  refine ⟨resolve_reading _ _, hlint, after, report, hrun, hiff.mpr ⟨.inl (by decide), ?_⟩⟩
  intro f hf
  simpa using hkept f hf

/-- Lint accepts the name `_`, of which nothing is left in kebab case: the files of the field
are called by their endings alone.  Nor is anything left of the component name `-`. -/
theorem underscore_loses_name :
    Lint.isIdentifier "_" = true ∧ Text.kebabCase "_" = "" ∧
      (Text.trim "-").isEmpty = false ∧
      ({ name := "-" } : Config).stem "Reading" .form = "" ∧
      (document "_" "high").resolve = .ok (model "_" "high") ∧
      (model "_" "high").lint.isEmpty = true ∧ ∃ after report,
        (model "_" "high").generate {} .form "out" false disk = (after, .ok report) ∧
        (∃ a ∈ report.artifacts, a.path = ".component.ts") ∧
        ¬(Selection.aspect (model "_" "high").aspect).NamesAll {} "out" report := by
  have hartifacts : artifacts? "_" "high" =
      some [⟨"shared/form-validators.ts", .written⟩,
        ⟨".component.ts", .written⟩,
        ⟨".component.html", .written⟩,
        ⟨"high/high.component.ts", .written⟩,
        ⟨"high/high.component.html", .written⟩,
        ⟨"reading-form.component.ts", .written⟩,
        ⟨"reading-form.component.html", .written⟩] := by
    decide +kernel
  obtain ⟨after, report, hrun, hreport⟩ := run_of_artifacts? hartifacts
  have hmem : ⟨".component.ts", .written⟩ ∈ report.artifacts := by
    rw [hreport]
    exact List.mem_cons_of_mem _ List.mem_cons_self
  refine ⟨by decide, by decide +kernel, by decide, by decide +kernel, resolve_reading _ _,
    by decide +kernel, after, report, hrun, ⟨_, hmem, rfl⟩, fun hnames => ?_⟩
  have hname := hnames.files _ hmem ".component.ts" (by decide)
  exact hname (by decide)

end DerivedNamesWitness

end AspectForms
