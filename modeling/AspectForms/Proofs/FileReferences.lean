import AspectForms.Proofs.Imports

/-!
Where the references of a form's files lead.  Main statement: at every depth the import of a component
leads from the directory of the component around it to its class, and the references to the shared
validators and to the markup lead from its own directory to these files.
-/

namespace AspectForms

open Component (codeFile markupFile)

namespace Component

def codePath (c : Component) : String := Path.push c.directory (codeFile c.stem)

def markupPath (c : Component) : String :=
  Path.push c.directory (markupFile c.stem)

theorem isName_codeFile {stem : String} (h : Path.IsName stem) :
    Path.IsName (codeFile stem) := by
  unfold codeFile
  exact h.append (by decide) (by decide)

theorem isName_markupFile {stem : String} (h : Path.IsName stem) :
    Path.IsName (markupFile stem) := by
  unfold markupFile
  exact h.append (by decide) (by decide)

theorem drafts_eq (c : Component) :
    c.drafts = [⟨c.codePath, text c.code⟩, ⟨c.markupPath, text c.markup⟩] := rfl

/-- What the name of a file with a class ends in. -/
def classEnding : List Char := ".component.ts".toList

theorem suffix_codePath (c : Component) : classEnding <:+ c.codePath.toList := by
  refine List.IsSuffix.trans ?_ (Path.suffix_push c.directory _)
  rw [codeFile, String.toList_append]
  exact List.suffix_append _ _

theorem codePath_ne_shared (c : Component) :
    c.codePath ≠ Form.sharedDraft.path := by
  intro heq
  have hends := heq ▸ c.suffix_codePath
  have hno : ¬classEnding <:+ Form.sharedDraft.path.toList := by decide
  exact hno hends

theorem codePath_ne_markupPath (c d : Component) : c.codePath ≠ d.markupPath := by
  intro heq
  have hends := heq ▸ c.suffix_codePath
  have hmarkup : ".component.html".toList <:+ d.markupPath.toList := by
    refine List.IsSuffix.trans ?_ (Path.suffix_push d.directory _)
    rw [markupFile, String.toList_append]
    exact List.suffix_append _ _
  have hno : ¬classEnding <:+ ".component.html".toList := by decide
  exact hno (List.suffix_of_suffix_length_le hends hmarkup (by decide))

end Component

namespace Node

def component (n : Node) : Component := (n.placed {}).component

theorem directory_component (n : Node) :
    n.component.directory = Path.ofNames n.dashes :=
  (n.placed {}).directory_component.trans (congrArg Path.ofNames n.dashes_placed)

theorem stem_component (n : Node) : n.component.stem = n.field.dashed :=
  (n.placed {}).stem_component

theorem templateLine_mem (n : Node) :
    Component.templateLine n.component.stem ∈ n.component.code := by
  obtain ⟨types, rest, _, _, hline, hcode⟩ :=
    n.field.exists_code_eq (n.placed {}).trail
  rw [n.stem_component]
  change _ ∈ (n.field.component (n.placed {}).trail).code
  rw [hcode]
  exact List.mem_append_right _ hline

theorem dashes_eq (n : Node) :
    n.dashes = n.above.map Field.dashed ++ [n.field.dashed] :=
  List.map_append

theorem imports_component_iff (n : Node) (module : String) :
    n.component.Imports module ↔
      module = "@angular/core" ∨ module = "@angular/forms" ∨
        (Control.usesShared n.field = true ∧
          module = upLevels n.names.length ++ sharedModule) ∨
        ∃ (i : Nat) (g : Field), n.field.children[i]? = some g ∧
          module = (n.child i g).registration.importPath := by
  have hinner (t : Trail) :
      (∃ g ∈ n.field.children, module = (g.registration t).importPath) ↔
        ∃ (i : Nat) (g : Field), n.field.children[i]? = some g ∧
          module = (n.child i g).registration.importPath := by
    constructor
    · rintro ⟨g, hg, rfl⟩
      obtain ⟨i, hi⟩ := List.mem_iff_getElem?.mp hg
      exact ⟨i, g, hi, rfl⟩
    · rintro ⟨i, g, hg, rfl⟩
      exact ⟨g, List.mem_of_getElem? hg, rfl⟩
  rw [← hinner, ← n.names_placed]
  exact n.field.imports_component_iff _ module

end Node

namespace Form

/-- The component around a place: that of the field around it, or the form. -/
def holder (stem title : String) (fields : List Field) (n : Node) : Component :=
  match n.above.getLast? with
  | none => component stem title fields
  | some f => f.component (Trail.along {} n.above.dropLast)

variable {stem title : String} {fields : List Field} {n : Node}

theorem holder_child (m : Node) (i : Nat) (g : Field) :
    holder stem title fields (m.child i g) = m.component := by
  rw [holder, Node.child, List.getLast?_append, List.dropLast_concat]
  rfl

theorem directory_holder (n : Node) :
    (holder stem title fields n).directory =
      Path.ofNames (n.above.map Field.dashed) := by
  rcases List.eq_nil_or_concat n.above with hnone | ⟨above, f, habove⟩
  · rw [holder, hnone]
    rfl
  · have hparent := (Node.mk [] above f).directory_component
    rw [holder, habove, List.concat_eq_append, List.getLast?_concat,
      List.dropLast_concat]
    exact hparent

/-- The component around a place imports the component there. -/
theorem imports_holder (h : n.StandsIn fields) :
    (holder stem title fields n).Imports n.registration.importPath := by
  rcases h.top_or_child with ⟨i, f, hf, rfl⟩ | ⟨m, i, g, _, hg, rfl⟩
  · refine Form.imports_component_iff.mpr (.inr (.inr ⟨f, ?_, rfl⟩))
    exact List.mem_of_getElem? hf
  · rw [holder_child, Node.imports_component_iff]
    exact .inr (.inr (.inr ⟨i, g, hg, rfl⟩))

end Form

/-- A step up for each level and the shared validators after them. -/
theorem upLevels_append_sharedModule {depth : Nat} (h : 0 < depth) :
    upLevels depth ++ sharedModule =
      Path.through (List.replicate depth ".." ++ ["shared", "form-validators"]) := by
  have hup (n : Nat) : String.join (List.replicate n "../") ++ sharedModule =
      Path.through (List.replicate n ".." ++ ["shared", "form-validators"]) := by
    induction n with
    | zero => decide
    | succ n ih =>
        rw [List.replicate_succ, List.replicate_succ, String.join_cons,
          String.append_assoc, ih, List.cons_append, Path.through_cons]
        · rfl
        · simp
  obtain ⟨n, rfl⟩ := Nat.exists_eq_succ_of_ne_zero (Nat.ne_of_gt h)
  exact hup (n + 1)

namespace Path

variable {names : List String} (hnames : ∀ n ∈ names, IsName n)
include hnames

/-- The import of a component leads to its class, one directory further down. -/
theorem moduleFile?_inner {d : String} (hd : IsName d) :
    moduleFile? (ofNames names) ("./" ++ d ++ "/" ++ d ++ ".component") =
      some (push (ofNames (names ++ [d])) (codeFile d)) := by
  have hfile : IsName (d ++ ".component") := hd.append (by decide) (by decide)
  have hslash : '/' ∉ (codeFile d).toList :=
    (Component.isName_codeFile hd).plain.2
  have hinner : ∀ n ∈ names ++ [d], IsName n := by
    simpa [or_imp, forall_and] using ⟨hnames, hd⟩
  have hreference : "./" ++ d ++ "/" ++ d ++ ".component" =
      through ("." :: [d, d ++ ".component"]) := by
    apply String.toList_inj.mp
    simp [through, Text.joinWith]
  have hending : d ++ ".component" ++ ".ts" = codeFile d := by
    rw [String.append_assoc]
    rfl
  have hsplit : names ++ [d, d ++ ".component"] = names ++ [d] ++ [d ++ ".component"] := by
    simp
  rw [moduleFile?, hreference, against?_here hnames (by simpa using ⟨hd, hfile⟩),
    Option.map_some, hsplit, through_concat_append, hending,
    push_ofNames_of_names hinner hslash]

/-- As many steps up as there are directories lead to the shared validators. -/
theorem moduleFile?_shared (hne : names ≠ []) :
    moduleFile? (ofNames names) (upLevels names.length ++ sharedModule) =
      some Form.sharedDraft.path := by
  rw [moduleFile?, upLevels_append_sharedModule (List.length_pos_iff.mpr hne),
    against?_up hnames (by decide)]
  decide

/-- The reference to a file in the same directory leads to it. -/
theorem against?_beside {file : String} (hfile : IsName file) :
    against? (ofNames names) ("./" ++ file) = some (push (ofNames names) file) := by
  have hreference : "./" ++ file = through ("." :: [file]) := by
    apply String.toList_inj.mp
    simp [through, Text.joinWith]
  rw [hreference, against?_here hnames (by simpa using hfile),
    push_ofNames_of_names hnames hfile.plain.2]

end Path

namespace Form

variable {stem title : String} {fields : List Field} {n : Node}

theorem mem_placedFields (h : n.StandsIn fields) :
    n.placed {} ∈ placedFields fields := by
  obtain ⟨nodes, hnodes, hlist⟩ := exists_postorder_placedFields fields
  rw [hlist]
  exact List.mem_map_of_mem ((hnodes.mem_iff n).mpr h)

theorem mem_drafts_of_component (h : n.StandsIn fields) {draft : Draft}
    (hdraft : draft ∈ n.component.drafts) : draft ∈ drafts stem title fields := by
  refine List.mem_cons_of_mem _ (List.mem_append_left _ ?_)
  exact List.mem_flatMap.mpr ⟨_, mem_placedFields h, hdraft⟩

section Names

variable (hnames : ∀ f, Field.OccursIn fields f → Path.IsName f.dashed)
  (h : n.StandsIn fields)

include hnames h

theorem moduleFile?_holder (stem title : String) :
    Path.moduleFile? (holder stem title fields n).directory
      n.registration.importPath = some n.component.codePath := by
  have habove : ∀ d ∈ n.above.map Field.dashed, Path.IsName d := by
    intro d hd
    obtain ⟨f, hf, rfl⟩ := List.mem_map.mp hd
    exact hnames f (Node.occursIn_above h f hf)
  rw [directory_holder, Component.codePath, n.directory_component,
    n.stem_component, n.dashes_eq]
  exact Path.moduleFile?_inner habove (hnames _ (Node.occursIn h))

theorem moduleFile?_shared :
    Path.moduleFile? n.component.directory
      (upLevels n.names.length ++ sharedModule) = some sharedDraft.path := by
  have hlength : n.names.length = n.dashes.length := by
    rw [Node.names, Node.dashes, List.length_map, List.length_map]
  rw [n.directory_component, hlength]
  exact Path.moduleFile?_shared (Node.forall_dashes h hnames) n.dashes_ne_nil

theorem against?_markup :
    Path.against? n.component.directory ("./" ++ markupFile n.component.stem) =
      some n.component.markupPath := by
  have hfile : Path.IsName (markupFile n.field.dashed) :=
    Component.isName_markupFile (hnames _ (Node.occursIn h))
  rw [Component.markupPath, n.directory_component, n.stem_component]
  exact Path.against?_beside (Node.forall_dashes h hnames) hfile

end Names

/-- The references to and in the files of a field, and the files that they
lead to, each of which the run writes with the text meant by the reference. -/
structure RefersToFiles (stem title : String) (fields : List Field) (n : Node) :
    Prop where
  registered : n.registration ∈ registrations fields
  imported : (holder stem title fields n).Imports n.registration.importPath
  import_leads : Path.moduleFile? (holder stem title fields n).directory
    n.registration.importPath = some n.component.codePath
  code_drafted : ⟨n.component.codePath, Component.text n.component.code⟩ ∈
    drafts stem title fields
  shared : Control.usesShared n.field = true →
    n.component.Imports (upLevels n.names.length ++ sharedModule)
  shared_leads : Path.moduleFile? n.component.directory
    (upLevels n.names.length ++ sharedModule) = some sharedDraft.path
  shared_drafted : sharedDraft ∈ drafts stem title fields
  template : Component.templateLine n.component.stem ∈ n.component.code
  template_leads : Path.against? n.component.directory
    ("./" ++ markupFile n.component.stem) = some n.component.markupPath
  markup_drafted : ⟨n.component.markupPath, Component.text n.component.markup⟩ ∈
    drafts stem title fields

/-- At every depth of a form the import of a component leads to its class, and
its references to the shared validators and to its markup lead to these, all of
which are files of the run. -/
theorem refersToFiles (stem title : String)
    (hnames : ∀ f, Field.OccursIn fields f → Path.IsName f.dashed)
    (h : n.StandsIn fields) : RefersToFiles stem title fields n where
  registered := by
    rw [← n.registration_placed]
    exact List.mem_map_of_mem (mem_placedFields h)
  imported := imports_holder h
  import_leads := moduleFile?_holder hnames h stem title
  code_drafted := mem_drafts_of_component h (by simp [Component.drafts_eq])
  shared := fun hshared =>
    (n.imports_component_iff _).mpr (.inr (.inr (.inl ⟨hshared, rfl⟩)))
  shared_leads := moduleFile?_shared hnames h
  shared_drafted := List.mem_cons_self
  template := n.templateLine_mem
  template_leads := against?_markup hnames h
  markup_drafted := mem_drafts_of_component h (by simp [Component.drafts_eq])

end Form

namespace FileReferencesWitness

open EmissionWitness

/-- The place of the latitude inside the position. -/
def inner : Node := ⟨[0, 0], [position], latitude⟩

theorem refersToFiles_of_latitude :
    (∀ f, Field.OccursIn fields f → Path.IsName f.dashed) ∧
      inner.StandsIn fields ∧ Control.usesShared inner.field = true ∧
      inner.component.codePath = "position/latitude/latitude.component.ts" ∧
      Form.RefersToFiles "movement-form" "Movement" fields inner := by
  have hposition : fields[0]? = some position := rfl
  have hlatitude : position.children[0]? = some latitude := rfl
  have hinner : inner.StandsIn fields := .inside hposition (.top hlatitude)
  exact ⟨isName_fields, hinner, by decide, by decide +kernel,
    Form.refersToFiles "movement-form" "Movement" isName_fields hinner⟩

end FileReferencesWitness

end AspectForms
