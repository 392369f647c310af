import AspectForms.Proofs.DerivedNames
import AspectForms.Proofs.ValueTypes

/-!
Class names in the scope of a generated file.  Main statement: the classes of a form import
classes with names of their own exactly if the names of siblings differ in camel case and none of
those at the top has the camel case of the form.  Camel case forgets the hyphens of kebab case,
which tell the directories of siblings apart.
-/

namespace AspectForms

open Script Control
open Component (importLine)

namespace Component

/-- The names that a line imports from a module further down. -/
def namesBelow (line : String) : List String :=
  match Text.splitOn '\x27' line with
  | [head, module, _] =>
    if opensWith "import \x7b " head && opensWith "./" module then
      ((Text.splitOn ' ' head).drop 2).takeWhile (· != "\x7d")
    else []
  | _ => []

/-- The classes that are imported from the components below. -/
def childClasses (c : Component) : List String := c.code.flatMap namesBelow

/-- How the declaration of a class starts. -/
def classStart : String := "export class "

/-- The classes that are declared. -/
def declaredClasses (c : Component) : List String :=
  (c.code.filter (opensWith classStart)).map fun line =>
    String.ofList ((line.toList.drop classStart.length).takeWhile (· != ' '))

/-- The class has a name of its own among those that it imports, and so has each of them. -/
structure NamesApart (c : Component) : Prop where
  imported : c.childClasses.Nodup
  declared : ∃ name, c.declaredClasses = [name] ∧ name ∉ c.childClasses

/-- An import between its quotes. -/
theorem splitOn_importLine {names : List String} {module : String} (hnames : Unquoted names)
    (hmodule : '\x27' ∉ module.toList) :
    Text.splitOn '\x27' (importLine names module) =
      ["import \x7b " ++ Text.join ", " names ++ " \x7d from ", module, ";"] := by
  have hline : importLine names module =
      Text.join "'" ["import \x7b " ++ Text.join ", " names ++ " \x7d from ", module, ";"] := by
    apply String.toList_inj.mp
    simp [importLine, Text.join]
  have hjoin : '\x27' ∉ (Text.join ", " names).toList := Text.not_mem_join (by decide) hnames
  rw [hline, Text.splitOn_join rfl (List.cons_ne_nil _ _)]
  simpa using ⟨hjoin, hmodule⟩

/-- What is not imported from further down is not below. -/
theorem namesBelow_of_misses {names : List String} {module : String} (hnames : Unquoted names)
    (hmodule : '\x27' ∉ module.toList) (h : Misses "./" module) :
    namesBelow (importLine names module) = [] := by
  rw [namesBelow, splitOn_importLine hnames hmodule]
  dsimp only
  rw [h, Bool.and_false]
  rfl

theorem namesBelow_className {segments : List String} {rest : String}
    (hrest : '\x27' ∉ rest.toList) :
    namesBelow (importLine [className segments] ("./" ++ rest)) = [className segments] := by
  have hmodule : '\x27' ∉ ("./" ++ rest).toList := by
    simp [hrest]
  have hjoin : Text.join ", " [className segments] = className segments := by
    simp [Text.join]
  have hhead : "import \x7b " ++ className segments ++ " \x7d from " =
      Text.join " " ["import", "\x7b", className segments, "\x7d", "from", ""] := by
    apply String.toList_inj.mp
    simp [Text.join]
  have hsplit : Text.splitOn ' ' ("import \x7b " ++ className segments ++ " \x7d from ") =
      ["import", "\x7b", className segments, "\x7d", "from", ""] := by
    have hblank := not_mem_className (c := ' ') (by decide) segments
    rw [hhead, Text.splitOn_join rfl (List.cons_ne_nil _ _)]
    simpa using hblank
  have hname : className segments ≠ "\x7d" := by
    intro heq
    have hlength := congrArg String.length heq
    rw [className, String.length_append] at hlength
    have hlong : "Component".length = 9 := rfl
    have hshort : "\x7d".length = 1 := rfl
    omega
  have hopens : opensWith "import \x7b "
      ("import \x7b " ++ className segments ++ " \x7d from ") = true := by
    rw [String.append_assoc]
    exact opensWith_append _ _
  rw [namesBelow, splitOn_importLine (unquoted_className segments) hmodule, hjoin]
  dsimp only
  rw [hopens, opensWith_append, hsplit]
  simp [hname]

theorem namesBelow_of_notImport {line : String} (h : NotImport line) : namesBelow line = [] := by
  unfold namesBelow
  split
  · rename_i head module last hsplit
    have hopens : opensWith "import \x7b " head = false := by
      rw [Bool.eq_false_iff]
      intro hopens
      obtain ⟨rest, hrest⟩ := List.isPrefixOf_iff_prefix.mp hopens
      have hline := @Text.join_splitOn '\x27' "'" rfl line
      rw [hsplit] at hline
      apply h
      rw [← hline, Text.join, String.toList_intercalate]
      simp [← hrest]
    rw [hopens, Bool.false_and]
    rfl
  · rfl

end Component

/-- The imports of components are read back as their names. -/
theorem Control.flatMap_namesBelow_innerImports {t : Trail} {fs : List Field}
    (h : ∀ f ∈ fs, '\x27' ∉ f.dashed.toList) :
    ((innerImports (fs.map (Field.registration t))).map fun i => importLine i.1 i.2).flatMap
        Component.namesBelow = fs.map fun f => className (t.names ++ [f.name]) := by
  rw [innerImports, List.map_map, List.map_map, List.flatMap_map]
  have hname : ∀ f ∈ fs, Component.namesBelow (importLine [(f.registration t).className]
      (f.registration t).importPath) = [className (t.names ++ [f.name])] := by
    intro f hf
    have hrest : '\x27' ∉ (f.dashed ++ ("/" ++ (f.dashed ++ ".component"))).toList := by
      simp [h f hf]
    have hpath : (f.registration t).importPath =
        "./" ++ (f.dashed ++ ("/" ++ (f.dashed ++ ".component"))) := by
      rw [Field.registration]
      simp only [String.append_assoc]
    rw [hpath]
    exact Component.namesBelow_className hrest
  exact (List.flatMap_congr hname).trans List.map_eq_flatMap.symm

/-- What the class of a field imports for itself does not come from further down. -/
theorem Control.flatMap_namesBelow_ownImports (t : Trail) (f : Field) {types : List String}
    (htypes : Unquoted types) :
    ((ownImports t f types).map fun i => importLine i.1 i.2).flatMap
      Component.namesBelow = [] := by
  have hshared : '\x27' ∉ (upLevels (t.down f).names.length ++ sharedModule).toList ∧
      Misses "./" (upLevels (t.down f).names.length ++ sharedModule) := by
    have hup : upLevels (t.down f).names.length =
        "../" ++ String.join (List.replicate t.names.length "../") := by
      have hdepth : (t.down f).names.length = t.names.length + 1 := by simp [Trail.down]
      rw [hdepth, ← String.join_cons]
      rfl
    have hstart : Differs "./" "../" := .of_lists rfl
    rw [hup, String.append_assoc]
    refine ⟨?_, (hstart.append _).misses⟩
    simp [sharedModule, String.toList_join, List.mem_flatMap, List.mem_replicate]
  have hmodules : ∀ i ∈ ownImports t f types, '\x27' ∉ i.2.toList ∧ Misses "./" i.2 := by
    intro i hi
    rcases exists_ownImports_iff.mp ⟨i, hi, rfl⟩ with hcore | hforms | ⟨_, hup⟩
    · exact hcore ▸ ⟨by decide, .of_lists rfl⟩
    · exact hforms ▸ ⟨by decide, .of_lists rfl⟩
    · exact hup ▸ hshared
  rw [List.flatMap_map, List.flatMap_eq_nil_iff]
  intro i hi
  exact Component.namesBelow_of_misses (unquoted_ownImports t f htypes i hi) (hmodules i hi).1
    (hmodules i hi).2

theorem Component.flatMap_namesBelow_of_noImports {lines : List String} (h : NoImports lines) :
    lines.flatMap namesBelow = [] :=
  List.flatMap_eq_nil_iff.mpr fun line hline => namesBelow_of_notImport (h line hline)

/-- The class of a field imports those of the fields right inside it from below. -/
theorem Field.childClasses_component {t : Trail} {f : Field}
    (h : ∀ g ∈ f.children, '\x27' ∉ g.dashed.toList) :
    (f.component t).childClasses =
      f.children.map fun g => className ((t.down f).names ++ [g.name]) := by
  obtain ⟨types, rest, htypes, hrest, _, hcode⟩ := f.exists_code_eq t
  rw [Component.childClasses, hcode, List.map_append, List.flatMap_append, List.flatMap_append,
    Control.flatMap_namesBelow_ownImports t f (unquoted_of_formTypes htypes.2),
    Control.flatMap_namesBelow_innerImports h, Component.flatMap_namesBelow_of_noImports hrest,
    List.nil_append, List.append_nil]

/-- The class of a form imports those of the fields at the top. -/
theorem Form.childClasses_component {stem title : String} {fields : List Field}
    (h : ∀ f ∈ fields, '\x27' ∉ f.dashed.toList) :
    (component stem title fields).childClasses = fields.map fun f => className [f.name] := by
  obtain ⟨rest, hrest, hcode⟩ := exists_code_eq stem fields (fields.map (Field.registration {}))
  have hown : ([(["Component", "EventEmitter", "Output"], "@angular/core"),
      (["FormGroup", "ReactiveFormsModule"], "@angular/forms")].map
        fun i => importLine i.1 i.2).flatMap Component.namesBelow = [] := by
    decide +kernel
  have hsame : (component stem title fields).code =
      code stem fields (fields.map (Field.registration {})) := rfl
  rw [Component.childClasses, hsame, hcode, List.map_append, List.flatMap_append,
    List.flatMap_append, hown, Control.flatMap_namesBelow_innerImports h,
    Component.flatMap_namesBelow_of_noImports hrest, List.nil_append, List.append_nil]
  rfl

namespace Control

open Component (classStart)

theorem noneOpens_classStart_decorator (selector stem : String) (imports : List String) :
    NoneOpens classStart (Component.decorator selector stem imports) := by
  refine .cons (.of_lists rfl) (.cons ?_ (.cons (.of_lists rfl) (.cons ?_ (.cons ?_
    (.cons (.of_lists rfl) .nil)))))
  all_goals exact (Differs.append (.append (.of_lists rfl) _) _).misses

theorem opening_classHead (t : Trail) (f : Field) :
    Opening classStart [(f.registration t).className ++ " implements OnInit \x7b"]
      (classHead t f) := by
  refine .here String.append_assoc (NoneOpens.opening ?_)
  exact .cons (.of_lists rfl) (.cons (.of_lists rfl) (.cons (.of_lists rfl) .nil))

theorem noneOpens_classStart_listMembers (f : Field) : NoneOpens classStart (listMembers f) := by
  refine .cons ?_ (.cons ?_ ?_)
  · exact (Differs.append (.append (.of_lists rfl) _) _).misses
  · exact (Differs.append (.append (.of_lists rfl) _) _).misses
  · exact .cons (.of_lists rfl) (.cons (.of_lists rfl) (.cons (.of_lists rfl)
      (.cons (.of_lists rfl) (.cons (.of_lists rfl) (.cons (.of_lists rfl)
        (.cons (.of_lists rfl) (.cons (.of_lists rfl) .nil)))))))

theorem misses_classStart_addLine (f : Field) : Misses classStart (addLine f) :=
  (Differs.append (.append (.of_lists rfl) _) _).misses

theorem opening_classStart_leafCode (t : Trail) (f : Field) :
    Opening classStart [(f.registration t).className ++ " implements OnInit \x7b"]
      (leafCode t f) := by
  have hoptions : Misses classStart (optionsLine f) :=
    (Differs.append (.append (.append (.append (.of_lists rfl) _) _) _) _).misses
  have hvalue : Misses classStart (valueMember f) :=
    (Differs.append (.append (.append (.append (.of_lists rfl) _) _) _) _).misses
  simp only [leafCode, List.append_assoc]
  refine .skip (noneOpens_imports (.of_lists rfl) _ _ _) (.skip (.cons (.of_lists rfl) .nil) ?_)
  refine .skip (noneOpens_classStart_decorator _ _ _) ((opening_classHead t f).before ?_)
  refine .append (.when _ (.cons (.of_lists rfl) (.cons hoptions .nil)))
    (.append (.cons (.of_lists rfl) .nil) (.append ?_ ?_))
  · split
    · exact noneOpens_classStart_listMembers f
    · exact .cons hvalue .nil
  · refine .append (.cons (.of_lists rfl) (.cons (.of_lists rfl) .nil)) (.append ?_ ?_)
    · exact .when _ (.cons (.of_lists rfl) .nil)
    · exact .cons (misses_classStart_addLine f)
        (.cons (.of_lists rfl) (.cons (.of_lists rfl) .nil))

theorem opening_classStart_groupCode (t : Trail) (f : Field) (inner : List Registration) :
    Opening classStart [(f.registration t).className ++ " implements OnInit \x7b"]
      (groupCode t f inner) := by
  have harray {head : String} (h : Differs classStart head) (vs : List Validator) (tail : String) :
      Misses classStart (head ++ definitions vs ++ tail) :=
    ((h.append _).append _).misses
  simp only [groupCode, List.append_assoc]
  refine .skip (noneOpens_imports (.of_lists rfl) _ _ _)
    (.skip (noneOpens_componentImports (.of_lists rfl) inner)
      (.skip (.cons (.of_lists rfl) .nil) ?_))
  refine .skip (noneOpens_classStart_decorator _ _ _) ((opening_classHead t f).before ?_)
  refine .cons (harray (.of_lists rfl) _ _) (.cons (.of_lists rfl)
    (.cons (harray (.of_lists rfl) _ _) (.cons (.of_lists rfl) (.cons (.of_lists rfl)
      (.cons (.of_lists rfl) (.cons (misses_classStart_addLine f) ?_))))))
  exact .cons (.of_lists rfl) (.cons (.of_lists rfl) .nil)

end Control

theorem Form.opening_classStart_code (stem : String) (fields : List Field)
    (inner : List Registration) :
    Opening Component.classStart [className [stem] ++ " \x7b"] (code stem fields inner) := by
  have htype : Misses Component.classStart
      ("export type " ++ className [stem] ++ "Value = " ++ objectType fields ++ ";") :=
    (Differs.append (.append (.append (.append (.of_lists rfl) _) _) _) _).misses
  have hname {head : String} (h : Differs Component.classStart head) (tail : String) :
      Misses Component.classStart (head ++ className [stem] ++ tail) :=
    ((h.append _).append _).misses
  simp only [code, List.append_assoc]
  refine .skip (.cons (misses_importLine (.of_lists rfl) _ _)
    (.cons (misses_importLine (.of_lists rfl) _ _) .nil)) ?_
  refine .skip (noneOpens_componentImports (.of_lists rfl) inner) ?_
  refine .skip (.cons (.of_lists rfl) (.cons htype (.cons (.of_lists rfl) .nil))) ?_
  refine .skip (noneOpens_classStart_decorator _ _ _)
    (.here String.append_assoc (NoneOpens.opening ?_))
  refine .cons (hname (.of_lists rfl) _) (.cons (.of_lists rfl) (.cons (.of_lists rfl)
    (.cons (.of_lists rfl) (.cons (.of_lists rfl) (.cons (.of_lists rfl)
      (.cons (.of_lists rfl) (.cons (.of_lists rfl) ?_)))))))
  refine .cons (hname (.of_lists rfl) _) (.cons (.of_lists rfl) (.cons (.of_lists rfl)
    (.cons (.of_lists rfl) (.cons (.of_lists rfl) (.cons (.of_lists rfl)
      (.cons (.of_lists rfl) .nil))))))

/-- The name of the class stands before the first blank. -/
theorem Component.declaredClasses_of_opening {c : Component} {segments : List String}
    (rest : String) (h : Opening classStart [className segments ++ (" " ++ rest)] c.code) :
    c.declaredClasses = [className segments] := by
  have hblank := not_mem_className (c := ' ') (by decide) segments
  rw [declaredClasses, h, List.map_singleton, List.map_singleton]
  refine congrArg (fun name => [name]) (String.toList_inj.mp ?_)
  have hdrop : (classStart ++ (className segments ++ (" " ++ rest))).toList.drop classStart.length =
      (className segments).toList ++ ' ' :: rest.toList := by
    rw [String.toList_append, ← String.length_toList, List.drop_left]
    simp
  have hname : ∀ c ∈ (className segments).toList, (c != ' ') = true := by
    intro c hc
    rw [bne_iff_ne]
    rintro rfl
    exact hblank hc
  rw [hdrop, String.toList_ofList, List.takeWhile_append_of_pos hname,
    List.takeWhile_cons_of_neg (by decide), List.append_nil]

theorem Field.declaredClasses_component (t : Trail) (f : Field) :
    (f.component t).declaredClasses = [className (t.down f).names] := by
  apply Component.declaredClasses_of_opening "implements OnInit \x7b"
  cases hchildren : f.children? with
  | some fs =>
      rw [code_of_children hchildren]
      exact opening_classStart_groupCode t f _
  | none =>
      rw [code_of_leaf hchildren]
      exact opening_classStart_leafCode t f

theorem Form.declaredClasses_component (stem title : String) (fields : List Field) :
    (component stem title fields).declaredClasses = [className [stem]] := by
  apply Component.declaredClasses_of_opening "\x7b"
  exact opening_classStart_code stem fields _

/-- A class below a path of names is told by the camel case of its last name. -/
theorem className_concat (segments : List String) (name : String) :
    className (segments ++ [name]) =
      String.join (segments.map Text.upperCamelCase) ++
        (Text.upperCamelCase name ++ "Component") := by
  rw [className, List.map_append, List.map_singleton, String.join_append, String.append_assoc]
  simp

theorem className_concat_inj {segments : List String} {m n : String} :
    className (segments ++ [m]) = className (segments ++ [n]) ↔
      Text.upperCamelCase m = Text.upperCamelCase n := by
  rw [className_concat, className_concat, String.append_right_inj, String.append_left_inj]

/-- At every level of a forest the names of siblings differ in camel case. -/
def Field.CamelDistinct (fields : List Field) : Prop :=
  (fields.map fun f => Text.upperCamelCase f.name).Nodup ∧
    ∀ f, OccursIn fields f → (f.children.map fun g => Text.upperCamelCase g.name).Nodup

theorem nodup_className_iff (segments : List String) (fields : List Field) :
    (fields.map fun f => className (segments ++ [f.name])).Nodup ↔
      (fields.map fun f => Text.upperCamelCase f.name).Nodup := by
  simp only [List.Nodup, List.pairwise_map, ne_eq, className_concat_inj]

/-- Plain names that differ in kebab case differ in camel case. -/
theorem Field.nodup_camelCase {fields : List Field}
    (hdashed : ∀ f ∈ fields, f.dashed = Text.kebabCase f.name)
    (hplain : ∀ f ∈ fields, Text.LetterLed f.name) (h : (fields.map Field.dashed).Nodup) :
    (fields.map fun f => Text.upperCamelCase f.name).Nodup := by
  rw [List.Nodup, List.pairwise_map] at h ⊢
  apply h.imp_of_mem
  intro f g hf hg hne heq
  apply hne
  rw [hdashed f hf, hdashed g hg]
  exact (hplain f hf).kebabCase_eq (hplain g hg) heq

namespace Element

variable {e : Element DataType} {config : Config}

/-- The names in the class of a field are apart if those of the fields right inside are. -/
theorem namesApart_component_iff (hne : ∀ f, Field.OccursIn (e.fields config) f → f.dashed ≠ "")
    {n : Node} (hn : n.StandsIn (e.fields config)) :
    n.component.NamesApart ↔
      (n.field.children.map fun g => Text.upperCamelCase g.name).Nodup := by
  have hinside {g : Field} (hg : g ∈ n.field.children) : Field.OccursIn (e.fields config) g :=
    .inside (Node.occursIn hn) hg
  have hchildren : n.component.childClasses =
      n.field.children.map fun g => className (n.names ++ [g.name]) := by
    rw [← n.names_placed]
    apply Field.childClasses_component
    intro g hg
    rw [dashed_eq (hinside hg)]
    exact Text.not_mem_kebabCase (by decide) _
  have hdeclared : n.component.declaredClasses = [className n.names] := by
    rw [← n.names_placed]
    exact n.field.declaredClasses_component _
  have hown : className n.names ∉ n.component.childClasses := by
    rw [hchildren, List.mem_map]
    rintro ⟨g, hg, heq⟩
    rw [className_concat, className, String.append_right_inj, String.append_eq_right_iff] at heq
    have hletter : Text.HasLetter g.name := by
      rw [← Text.kebabCase_ne_empty_iff, ← dashed_eq (hinside hg)]
      exact hne g (hinside hg)
    exact Text.upperCamelCase_ne_empty_iff.mpr hletter heq
  constructor
  · intro h
    rw [← nodup_className_iff n.names, ← hchildren]
    exact h.imported
  · intro h
    refine ⟨?_, _, hdeclared, hown⟩
    rw [hchildren, nodup_className_iff]
    exact h

/-- Those in the class of the form are if those of the fields at the top are, and differ from
that of the form. -/
theorem namesApart_form_iff {stem title : String} :
    (Form.component stem title (e.fields config)).NamesApart ↔
      ((e.fields config).map fun f => Text.upperCamelCase f.name).Nodup ∧
        ∀ f ∈ e.fields config, Text.upperCamelCase f.name ≠ Text.upperCamelCase stem := by
  have hchildren : (Form.component stem title (e.fields config)).childClasses =
      (e.fields config).map fun f => className ([] ++ [f.name]) := by
    apply Form.childClasses_component
    intro f hf
    rw [dashed_eq (.top hf)]
    exact Text.not_mem_kebabCase (by decide) _
  have hdeclared := Form.declaredClasses_component stem title (e.fields config)
  have hown : className [stem] ∉
      (Form.component stem title (e.fields config)).childClasses ↔
        ∀ f ∈ e.fields config, Text.upperCamelCase f.name ≠ Text.upperCamelCase stem := by
    have hclass : className [stem] = className ([] ++ [stem]) := rfl
    rw [hchildren, hclass, List.mem_map]
    simp only [className_concat_inj, not_exists, not_and, ne_eq]
  rw [← nodup_className_iff [], ← hchildren, ← hown]
  constructor
  · rintro ⟨himported, name, hname, hnot⟩
    rw [hdeclared] at hname
    exact ⟨himported, (List.cons.inj hname).1 ▸ hnot⟩
  · rintro ⟨himported, hnot⟩
    exact ⟨himported, _, hdeclared, hnot⟩

/-- Where the directories of siblings have names that differ and are not empty, the names in the
classes of a form are apart exactly if those of siblings differ in camel case too and none at
the top has the camel case of the form.  Plain names of siblings do. -/
theorem namesApart_iff (e : Element DataType) (config : Config) (stem title : String)
    (hdistinct : Field.DirectoriesDistinct (e.fields config))
    (hne : ∀ f, Field.OccursIn (e.fields config) f → f.dashed ≠ "") :
    ((Form.component stem title (e.fields config)).NamesApart ∧
        (∀ n : Node, n.StandsIn (e.fields config) → n.component.NamesApart) ↔
      Field.CamelDistinct (e.fields config) ∧
        ∀ f ∈ e.fields config, Text.upperCamelCase f.name ≠ Text.upperCamelCase stem) ∧
    ((∀ f, Field.OccursIn (e.fields config) f → Text.LetterLed f.name) →
      Field.CamelDistinct (e.fields config)) := by
  constructor
  · have hinner : (∀ n : Node, n.StandsIn (e.fields config) → n.component.NamesApart) ↔
        ∀ f, Field.OccursIn (e.fields config) f →
          (f.children.map fun g => Text.upperCamelCase g.name).Nodup := by
      constructor
      · intro h f hf
        obtain ⟨n, hn, rfl⟩ := Node.exists_of_occursIn hf
        exact (namesApart_component_iff hne hn).mp (h n hn)
      · intro h n hn
        exact (namesApart_component_iff hne hn).mpr (h _ (Node.occursIn hn))
    rw [namesApart_form_iff, hinner, Field.CamelDistinct]
    tauto
  · intro hplain
    constructor
    · exact Field.nodup_camelCase (fun f hf => dashed_eq (.top hf)) (fun f hf => hplain f (.top hf))
        hdistinct.1
    · intro f hf
      exact Field.nodup_camelCase (fun g hg => dashed_eq (.inside hf hg))
        (fun g hg => hplain g (.inside hf hg)) (hdistinct.2 f hf)

end Element

namespace ClassNamesWitness

open FreshRunWitness (model)

/-- The fields of two text properties. -/
def fields (first second : String) : List Field := (model first second).aspect.fields {}

theorem namesApart_iff_of_reading :
    Field.DirectoriesDistinct (fields "lowLimit" "highLimit") ∧
      (∀ f, Field.OccursIn (fields "lowLimit" "highLimit") f → f.dashed ≠ "") ∧
      (∀ f, Field.OccursIn (fields "lowLimit" "highLimit") f → Text.LetterLed f.name) ∧
      (Form.component "reading-form" "Reading" (fields "lowLimit" "highLimit")).NamesApart := by
  have hdistinct : Field.DirectoriesDistinct (fields "lowLimit" "highLimit") := by
    rw [Field.DirectoriesDistinct, Field.forall_occursIn_iff]
    decide +kernel
  have hne : ∀ f, Field.OccursIn (fields "lowLimit" "highLimit") f → f.dashed ≠ "" := by
    rw [Field.forall_occursIn_iff]
    decide +kernel
  have hplain : ∀ f, Field.OccursIn (fields "lowLimit" "highLimit") f →
      Text.LetterLed f.name := by
    rw [Field.forall_occursIn_iff]
    decide +kernel
  obtain ⟨hiff, hcamel⟩ := Element.namesApart_iff (model "lowLimit" "highLimit").aspect {}
    "reading-form" "Reading" hdistinct hne
  exact ⟨hdistinct, hne, hplain, (hiff.mpr ⟨hcamel hplain, by decide +kernel⟩).1⟩

/-- Camel case forgets the underscore of `low_1`, which kebab case keeps: the form imports two
classes of one name.  And it imports a class called like its own for a field called like itself. -/
theorem hyphen_before_digit_lost :
    (Field.DirectoriesDistinct (fields "low1" "low_1") ∧
      (∀ f, Field.OccursIn (fields "low1" "low_1") f → f.dashed ≠ "") ∧
      (Form.component "reading-form" "Reading" (fields "low1" "low_1")).childClasses =
        ["Low1Component", "Low1Component"] ∧
      ¬(Form.component "reading-form" "Reading" (fields "low1" "low_1")).NamesApart) ∧
    Field.DirectoriesDistinct (fields "readingForm" "low") ∧
      (∀ f, Field.OccursIn (fields "readingForm" "low") f → f.dashed ≠ "") ∧
      ¬(Form.component "reading-form" "Reading" (fields "readingForm" "low")).NamesApart := by
  simp only [Field.DirectoriesDistinct, Field.forall_occursIn_iff]
  refine ⟨⟨by decide +kernel, by decide +kernel, ?_, fun happart => ?_⟩,
    by decide +kernel, by decide +kernel, fun happart => ?_⟩
  · rw [Form.childClasses_component (by decide +kernel)]
    decide +kernel
  · have hcamel := (Element.namesApart_form_iff.mp happart).1
    revert hcamel
    decide +kernel
  · have hform := (Element.namesApart_form_iff.mp happart).2
    revert hform
    decide +kernel

end ClassNamesWitness

end AspectForms
