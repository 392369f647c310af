import AspectForms.Proofs.Emission
import AspectForms.Proofs.RelativePaths

/-!
What the classes of a form import.  Main statement: the class of a field imports from the framework, from
the shared validators if it uses them, and the components of the fields right inside it, and nothing else.
-/

namespace AspectForms

open Component (markupFile importLine)

theorem Text.not_mem_join {c : Char} {sep : String} {parts : List String}
    (hsep : c ∉ sep.toList) (hparts : ∀ p ∈ parts, c ∉ p.toList) :
    c ∉ (join sep parts).toList := by
  rw [join, String.toList_intercalate]
  induction parts with
  | nil => simp
  | cons p ps ih =>
      have hp := hparts p List.mem_cons_self
      have hps := ih fun q hq => hparts q (List.mem_cons_of_mem p hq)
      cases ps with
      | nil => simpa using hp
      | cons q qs =>
          rw [List.map_cons, List.map_cons, List.intercalate_cons_cons,
            List.mem_append, List.mem_append, not_or, not_or]
          exact ⟨⟨hp, hsep⟩, hps⟩

/-- What stands behind the first separator is told by the whole text. -/
theorem Text.eq_of_append_cons {sep : Char} {xs xs' ys ys' : List Char}
    (hxs : sep ∉ xs) (hxs' : sep ∉ xs')
    (h : xs ++ sep :: ys = xs' ++ sep :: ys') : ys = ys' := by
  have hsplit := congrArg (splitWhen (· == sep)) h
  rw [splitWhen_append, splitWhen_append, splitWhen_of_not_mem hxs,
    splitWhen_of_not_mem hxs'] at hsplit
  have hrest := (List.cons.inj hsplit).2
  rw [← joinWith_splitWhen sep ys, ← joinWith_splitWhen sep ys']
  exact congrArg (joinWith sep) hrest

/-- No name holds the quotes that the module stands between. -/
def Unquoted (names : List String) : Prop := ∀ n ∈ names, '\x27' ∉ n.toList

instance (names : List String) : Decidable (Unquoted names) :=
  List.decidableBAll _ names

/-- An import tells its module. -/
theorem Component.module_eq_of_importLine {names others : List String}
    {module other : String} (hnames : Unquoted names) (hothers : Unquoted others)
    (h : importLine names module = importLine others other) : module = other := by
  have hhead {names : List String} (hnames : Unquoted names) :
      '\x27' ∉ ("import \x7b " ++ Text.join ", " names ++ " \x7d from ").toList := by
    rw [String.toList_append, String.toList_append, List.mem_append,
      List.mem_append, not_or, not_or]
    exact ⟨⟨by decide, Text.not_mem_join (by decide) hnames⟩, by decide⟩
  have hline (names : List String) (module : String) :
      (importLine names module).toList =
        ("import \x7b " ++ Text.join ", " names ++ " \x7d from ").toList ++
          '\x27' :: (module.toList ++ "';".toList) := by
    have hbreak : " \x7d from '".toList = " \x7d from ".toList ++ ['\x27'] := by
      decide
    rw [importLine]
    simp only [String.toList_append, List.append_assoc, hbreak]
    rfl
  have hlist := congrArg String.toList h
  rw [hline, hline] at hlist
  have hbehind := Text.eq_of_append_cons (hhead hnames) (hhead hothers) hlist
  exact String.toList_inj.mp (List.append_cancel_right hbehind)

/-- The line starts with a letter or blank that no import starts with. -/
def OpensOther (line : String) : Prop :=
  line.toList.head? = some ' ' ∨ line.toList.head? = some 'e'

instance (line : String) : Decidable (OpensOther line) :=
  inferInstanceAs (Decidable (_ ∨ _))

theorem OpensOther.append {s : String} (h : OpensOther s) (t : String) :
    OpensOther (s ++ t) := by
  have hkeep {c : Char} (hhead : s.toList.head? = some c) :
      (s ++ t).toList.head? = some c := by
    rw [String.toList_append, List.head?_append, hhead]
    rfl
  exact h.imp hkeep hkeep

def NotImport (line : String) : Prop := line.toList.head? ≠ some 'i'

instance (line : String) : Decidable (NotImport line) :=
  inferInstanceAs (Decidable (_ ≠ _))

theorem OpensOther.notImport {line : String} (h : OpensOther line) :
    NotImport line := by
  rcases h with hhead | hhead
  · rw [NotImport, hhead]
    decide
  · rw [NotImport, hhead]
    decide

theorem not_notImport_importLine (names : List String) (module : String) :
    ¬NotImport (importLine names module) := by
  have hhead : (importLine names module).toList.head? = some 'i' := by
    rw [importLine]
    simp only [String.toList_append, List.append_assoc]
    rfl
  exact not_not_intro hhead

def NoImports (lines : List String) : Prop := ∀ line ∈ lines, NotImport line

instance (lines : List String) : Decidable (NoImports lines) :=
  List.decidableBAll _ lines

namespace NoImports

variable {lines others : List String} {line : String}

theorem cons (h : NotImport line) (hlines : NoImports lines) :
    NoImports (line :: lines) :=
  List.forall_mem_cons.mpr ⟨h, hlines⟩

theorem append (h : NoImports lines) (hothers : NoImports others) :
    NoImports (lines ++ others) :=
  List.forall_mem_append.mpr ⟨h, hothers⟩

theorem when (condition : Bool) (h : NoImports lines) :
    NoImports (Component.when condition lines) := by
  cases condition
  · intro line hline
    cases hline
  · exact h

end NoImports

/-- The class of the component imports names from a module. -/
def Component.Imports (c : Component) (module : String) : Prop :=
  ∃ names, Unquoted names ∧ importLine names module ∈ c.code

/-- The names that are imported from each of some modules come before all other
lines. -/
theorem Component.imports_iff {c : Component}
    {imports : List (List String × String)} {rest : List String}
    (hcode : c.code = imports.map (fun i => importLine i.1 i.2) ++ rest)
    (hnames : ∀ i ∈ imports, Unquoted i.1) (hrest : NoImports rest)
    (module : String) : c.Imports module ↔ ∃ i ∈ imports, i.2 = module := by
  constructor
  · rintro ⟨names, hunquoted, hline⟩
    rw [hcode, List.mem_append] at hline
    rcases hline with hline | hline
    · obtain ⟨i, hi, heq⟩ := List.mem_map.mp hline
      exact ⟨i, hi, module_eq_of_importLine (hnames i hi) hunquoted heq⟩
    · exact absurd (hrest _ hline) (not_notImport_importLine names module)
  · rintro ⟨i, hi, rfl⟩
    refine ⟨i.1, hnames i hi, ?_⟩
    rw [hcode, List.mem_append, List.mem_map]
    exact .inl ⟨i, hi, rfl⟩

theorem not_mem_className {c : Char} (h : c.toNat ≤ 0x2F) (segments : List String) :
    c ∉ (className segments).toList := by
  have hending : "Component".toList.all (fun d => decide (0x2F < d.toNat)) = true := by
    decide
  rw [className, String.toList_append, String.toList_join, List.mem_append,
    List.mem_flatMap, not_or]
  constructor
  · rintro ⟨w, hw, hc⟩
    obtain ⟨s, _, rfl⟩ := List.mem_map.mp hw
    exact Text.not_mem_upperCamelCase h s hc
  · intro hc
    exact Nat.not_lt_of_le h (of_decide_eq_true (List.all_eq_true.mp hending c hc))

theorem unquoted_className (segments : List String) :
    Unquoted [className segments] := by
  intro n hn
  rw [List.mem_singleton.mp hn]
  exact not_mem_className (by decide) segments

namespace Component

/-- The line of a class that names the file with the markup. -/
def templateLine (stem : String) : String :=
  "  templateUrl: './" ++ markupFile stem ++ "',"

theorem templateLine_mem_decorator (selector stem : String)
    (imports : List String) :
    templateLine stem ∈ decorator selector stem imports :=
  .tail _ (.tail _ (.tail _ (.tail _ (.head _))))

theorem noImports_decorator (selector stem : String) (imports : List String) :
    NoImports (decorator selector stem imports) := by
  have hselector : OpensOther ("  selector: '" ++ selector ++ "',") :=
    .append (.append (by decide) _) _
  have himports : OpensOther ("  imports: [" ++ Text.join ", " imports ++ "],") :=
    .append (.append (by decide) _) _
  have htemplate : OpensOther (templateLine stem) :=
    .append (.append (by decide) _) _
  exact .cons (by decide) (.cons hselector.notImport (.cons (by decide)
    (.cons himports.notImport (.cons htemplate.notImport (by decide)))))

end Component

namespace Control

/-- What the class of a field imports, apart from other components. -/
def ownImports (t : Trail) (f : Field) (types : List String) :
    List (List String × String) :=
  [(["Component", "Input", "OnInit"], "@angular/core"),
    (types ++ Component.when (usesBuiltIn f) ["Validators"], "@angular/forms")] ++
  if usesShared f then
    [(["FormValidators"], upLevels (t.down f).names.length ++ sharedModule)]
  else []

/-- What the classes of fields import to build and check their controls. -/
def formTypes : List String :=
  ["FormArray", "FormControl", "FormGroup", "ReactiveFormsModule", "ValidatorFn"]

theorem unquoted_of_formTypes {types : List String} (h : ∀ n ∈ types, n ∈ formTypes) :
    Unquoted types := by
  have hnames : Unquoted formTypes := by decide
  intro n hn
  exact hnames n (h n hn)

/-- The components that the class of a group or of a form imports. -/
def innerImports (inner : List Registration) : List (List String × String) :=
  inner.map fun r => ([r.className], r.importPath)

theorem imports_eq (t : Trail) (f : Field) (types : List String) :
    imports t f types =
      (ownImports t f types).map fun i => importLine i.1 i.2 := by
  unfold imports ownImports
  cases usesShared f <;> rfl

theorem componentImports_eq (inner : List Registration) :
    componentImports inner =
      (innerImports inner).map fun i => importLine i.1 i.2 := by
  rw [componentImports, innerImports, List.map_map]
  rfl

theorem unquoted_ownImports (t : Trail) (f : Field) {types : List String}
    (htypes : Unquoted types) : ∀ i ∈ ownImports t f types, Unquoted i.1 := by
  have hforms : Unquoted (types ++ Component.when (usesBuiltIn f) ["Validators"]) := by
    refine List.forall_mem_append.mpr ⟨htypes, ?_⟩
    cases usesBuiltIn f <;> decide
  intro i hi
  rcases List.mem_append.mp hi with hi | hi
  · rcases List.mem_cons.mp hi with rfl | hi
    · decide
    · exact List.mem_singleton.mp hi ▸ hforms
  · split at hi
    · obtain rfl := List.mem_singleton.mp hi
      exact (by decide : Unquoted ["FormValidators"])
    · cases hi

theorem noImports_classHead (t : Trail) (f : Field) :
    NoImports (classHead t f) := by
  have hclass : OpensOther
      ("export class " ++ (f.registration t).className ++ " implements OnInit \x7b") :=
    .append (.append (by decide) _) _
  exact .cons hclass.notImport (by decide)

theorem notImport_addLine (f : Field) : NotImport (addLine f) :=
  OpensOther.notImport (.append (.append (by decide) _) _)

theorem notImport_valueMember (f : Field) : NotImport (valueMember f) :=
  OpensOther.notImport (.append (.append (.append (.append (by decide) _) _) _) _)

theorem notImport_optionsLine (f : Field) : NotImport (optionsLine f) :=
  OpensOther.notImport (.append (.append (.append (.append (by decide) _) _) _) _)

theorem noImports_listMembers (f : Field) : NoImports (listMembers f) := by
  have hcontrol : OpensOther ("  readonly control = new FormArray<FormControl<unknown>>([], [" ++
      definitions f.direct ++ "]);") :=
    .append (.append (by decide) _) _
  have hitems : OpensOther ("  private readonly itemValidators: ValidatorFn[] = [" ++
      definitions f.lifted ++ "];") :=
    .append (.append (by decide) _) _
  exact .cons hcontrol.notImport (.cons hitems.notImport (by decide))

/-- The class of a control imports what it needs first, and nothing later. -/
theorem exists_leafCode_eq (t : Trail) (f : Field) :
    ∃ types rest, (types ≠ [] ∧ ∀ n ∈ types, n ∈ formTypes) ∧ NoImports rest ∧
      Component.templateLine f.dashed ∈ rest ∧
      leafCode t f = imports t f types ++ rest := by
  simp only [leafCode, List.append_assoc]
  refine ⟨_, _, ?_, ?_, ?_, rfl⟩
  · cases f.kind == .list <;> decide
  · refine .append (by decide) (.append (Component.noImports_decorator _ _ _)
      (.append (noImports_classHead t f) (.append ?_ (.append (by decide)
      (.append ?_ (.append (by decide) (.append (.when _ (by decide)) ?_)))))))
    · exact .when _ (.cons (by decide) (.cons (notImport_optionsLine f) (by decide)))
    · split
      · exact noImports_listMembers f
      · exact .cons (notImport_valueMember f) (by decide)
    · exact .cons (notImport_addLine f) (by decide)
  · exact List.mem_append_right _ (List.mem_append_left _
      (Component.templateLine_mem_decorator _ _ _))

/-- The class of a group imports what it needs and the components inside it
first, and nothing later. -/
theorem exists_groupCode_eq (t : Trail) (f : Field) (inner : List Registration) :
    ∃ types rest, (types ≠ [] ∧ ∀ n ∈ types, n ∈ formTypes) ∧ NoImports rest ∧
      Component.templateLine f.dashed ∈ rest ∧
      groupCode t f inner =
        imports t f types ++ (componentImports inner ++ rest) := by
  simp only [groupCode, List.append_assoc]
  refine ⟨_, _, by decide, ?_, ?_, rfl⟩
  · have hcontrol : OpensOther ("  readonly control = new FormGroup(\x7b\x7d, [" ++
        definitions f.direct ++ "]);") :=
      .append (.append (by decide) _) _
    have hchildren : OpensOther ("  readonly childValidators: ValidatorFn[] = [" ++
        definitions f.lifted ++ "];") :=
      .append (.append (by decide) _) _
    refine .append (by decide) (.append (Component.noImports_decorator _ _ _)
      (.append (noImports_classHead t f) ?_))
    exact .cons hcontrol.notImport (.cons (by decide) (.cons hchildren.notImport
      (.cons (by decide) (.cons (by decide) (.cons (by decide)
        (.cons (notImport_addLine f) (by decide)))))))
  · exact List.mem_append_right _ (List.mem_append_left _
      (Component.templateLine_mem_decorator _ _ _))

theorem exists_ownImports_iff {t : Trail} {f : Field} {types : List String}
    {module : String} :
    (∃ i ∈ ownImports t f types, i.2 = module) ↔
      module = "@angular/core" ∨ module = "@angular/forms" ∨
        usesShared f = true ∧
          module = upLevels (t.down f).names.length ++ sharedModule := by
  unfold ownImports
  cases usesShared f <;> simp [eq_comm]

theorem exists_innerImports_iff {t : Trail} {fs : List Field} {module : String} :
    (∃ i ∈ innerImports (fs.map (Field.registration t)), i.2 = module) ↔
      ∃ g ∈ fs, module = (g.registration t).importPath := by
  simp [innerImports, eq_comm]

theorem unquoted_innerImports (t : Trail) (fs : List Field) :
    ∀ i ∈ innerImports (fs.map (Field.registration t)), Unquoted i.1 := by
  intro i hi
  obtain ⟨r, hr, rfl⟩ := List.mem_map.mp hi
  obtain ⟨g, _, rfl⟩ := List.mem_map.mp hr
  exact unquoted_className _

end Control

open Control

/-- The class of a field starts with its imports, and imports nothing later. -/
theorem Field.exists_code_eq (t : Trail) (f : Field) :
    ∃ types rest, (types ≠ [] ∧ ∀ n ∈ types, n ∈ formTypes) ∧ NoImports rest ∧
      Component.templateLine f.dashed ∈ rest ∧
      (f.component t).code =
        (ownImports t f types ++
          innerImports (f.children.map (registration (t.down f)))).map
            (fun i => importLine i.1 i.2) ++ rest := by
  unfold Field.component
  split
  · rename_i fs hchildren
    obtain ⟨types, rest, htypes, hrest, hline, hcode⟩ :=
      exists_groupCode_eq t f (fs.map (registration (t.down f)))
    refine ⟨types, rest, htypes, hrest, hline, ?_⟩
    rw [children, hchildren, Option.getD_some, List.map_append, ← imports_eq,
      ← componentImports_eq, List.append_assoc]
    exact hcode
  · rename_i hchildren
    obtain ⟨types, rest, htypes, hrest, hline, hcode⟩ := exists_leafCode_eq t f
    refine ⟨types, rest, htypes, hrest, hline, ?_⟩
    rw [children, hchildren, Option.getD_none, List.map_append, ← imports_eq,
      ← componentImports_eq]
    simpa [componentImports] using hcode

/-- The component of a field imports from the framework, from the shared
validators if it uses them, and the components of the fields right inside. -/
theorem Field.imports_component_iff (t : Trail) (f : Field) (module : String) :
    (f.component t).Imports module ↔
      module = "@angular/core" ∨ module = "@angular/forms" ∨
        (usesShared f = true ∧
          module = upLevels (t.down f).names.length ++ sharedModule) ∨
        ∃ g ∈ f.children, module = (g.registration (t.down f)).importPath := by
  obtain ⟨types, rest, htypes, hrest, _, hcode⟩ := f.exists_code_eq t
  have hnames : ∀ i ∈ ownImports t f types ++
      innerImports (f.children.map (registration (t.down f))), Unquoted i.1 :=
    List.forall_mem_append.mpr
      ⟨unquoted_ownImports t f (unquoted_of_formTypes htypes.2), unquoted_innerImports _ _⟩
  rw [Component.imports_iff hcode hnames hrest]
  simp only [List.mem_append, or_and_right, exists_or]
  rw [exists_ownImports_iff, exists_innerImports_iff, or_assoc, or_assoc]

namespace Form

/-- The class of a form starts with its imports, and imports nothing later. -/
theorem exists_code_eq (stem : String) (fields : List Field)
    (inner : List Registration) :
    ∃ rest, NoImports rest ∧
      code stem fields inner =
        ([(["Component", "EventEmitter", "Output"], "@angular/core"),
          (["FormGroup", "ReactiveFormsModule"], "@angular/forms")] ++
            innerImports inner).map (fun i => importLine i.1 i.2) ++ rest := by
  rw [List.map_append, ← componentImports_eq]
  simp only [code, List.append_assoc]
  refine ⟨_, ?_, rfl⟩
  have hvalue : OpensOther ("export type " ++ className [stem] ++ "Value = " ++
      objectType fields ++ ";") :=
    .append (.append (.append (.append (by decide) _) _) _) _
  have hclass : OpensOther ("export class " ++ className [stem] ++ " \x7b") :=
    .append (.append (by decide) _) _
  have hsubmitted : OpensOther ("  @Output() submitted = new EventEmitter<" ++
      className [stem] ++ "Value>();") :=
    .append (.append (by decide) _) _
  have hemit : OpensOther ("    this.submitted.emit(this.form.getRawValue() as " ++
      className [stem] ++ "Value);") :=
    .append (.append (by decide) _) _
  refine .append (.cons (by decide) (.cons hvalue.notImport (by decide)))
    (.append (Component.noImports_decorator _ _ _) ?_)
  exact .cons hclass.notImport (.cons hsubmitted.notImport (.cons (by decide)
    (.cons (by decide) (.cons (by decide) (.cons (by decide) (.cons (by decide)
      (.cons (by decide) (.cons (by decide) (.cons hemit.notImport
        (by decide))))))))))

/-- A form imports from the framework and the components of its fields. -/
theorem imports_component_iff {stem title : String} {fields : List Field}
    {module : String} :
    (component stem title fields).Imports module ↔
      module = "@angular/core" ∨ module = "@angular/forms" ∨
        ∃ f ∈ fields, module = (f.registration {}).importPath := by
  obtain ⟨rest, hrest, hcode⟩ :=
    exists_code_eq stem fields (fields.map (Field.registration {}))
  rw [Component.imports_iff hcode _ hrest]
  · simp only [List.mem_append, or_and_right, exists_or]
    rw [exists_innerImports_iff, ← or_assoc]
    simp [eq_comm]
  · exact List.forall_mem_append.mpr ⟨by decide, unquoted_innerImports _ _⟩

end Form

end AspectForms
