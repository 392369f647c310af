import AspectForms.Proofs.Imports
import AspectForms.Proofs.Validators

/-!
The validators in the classes of fields.  Main statement: the class of a field has each of its validators in
just one array, in order, and imports what these are taken from and nothing of the kind that they do not
need.
-/

namespace AspectForms

open Script Validator
open Component (importLine)

/-- The names do without the commas between them and the quotes around their
module. -/
def Separate (names : List String) : Prop :=
  ∀ n ∈ names, ',' ∉ n.toList ∧ '\x27' ∉ n.toList

instance (names : List String) : Decidable (Separate names) :=
  List.decidableBAll _ names

theorem Separate.unquoted {names : List String} (h : Separate names) : Unquoted names :=
  fun n hn => (h n hn).2

/-- The class of the component imports a name. -/
def Component.ImportsName (c : Component) (name : String) : Prop :=
  ∃ names module, Separate names ∧ name ∈ names ∧ importLine names module ∈ c.code

theorem splitWhen_join {x : String} {xs : List String} (h : ∀ y ∈ x :: xs, ',' ∉ y.toList) :
    Text.splitWhen (· == ',') (Text.join ", " (x :: xs)).toList =
      x.toList :: xs.map fun y => ' ' :: y.toList := by
  obtain ⟨hx, hxs⟩ := List.forall_mem_cons.mp h
  induction xs generalizing x with
  | nil =>
      have hjoin : (Text.join ", " [x]).toList = x.toList := by simp [Text.join]
      rw [hjoin, Text.splitWhen_of_not_mem hx, List.map_nil]
  | cons y ys ih =>
      obtain ⟨hy, hys⟩ := List.forall_mem_cons.mp hxs
      have hblank : Text.splitWhen (· == ',') (' ' :: (Text.join ", " (y :: ys)).toList) =
          (' ' :: y.toList) :: ys.map fun z => ' ' :: z.toList := by
        simp [Text.splitWhen, ih hxs hy hys]
      rw [toList_join_cons_cons, Text.splitWhen_append, Text.splitWhen_of_not_mem hx, hblank,
        List.map_cons, List.singleton_append]

/-- Joined names tell the names. -/
theorem Separate.eq_of_join {names others : List String} (hnames : Separate names)
    (hothers : Separate others) (hne : names ≠ []) (hne' : others ≠ [])
    (h : Text.join ", " names = Text.join ", " others) : names = others := by
  obtain ⟨x, xs, rfl⟩ := List.exists_cons_of_ne_nil hne
  obtain ⟨y, ys, rfl⟩ := List.exists_cons_of_ne_nil hne'
  have hsplit : Text.splitWhen (· == ',') (Text.join ", " (x :: xs)).toList =
      Text.splitWhen (· == ',') (Text.join ", " (y :: ys)).toList := by rw [h]
  rw [splitWhen_join fun n hn => (hnames n hn).1,
    splitWhen_join fun n hn => (hothers n hn).1] at hsplit
  obtain ⟨hhead, htail⟩ := List.cons.inj hsplit
  have hinjective : Function.Injective fun z : String => ' ' :: z.toList := by
    intro z w hzw
    exact String.toList_inj.mp (List.cons.inj hzw).2
  rw [String.toList_inj.mp hhead, List.map_injective_iff.mpr hinjective htail]

/-- An import tells its names. -/
theorem Separate.eq_of_importLine {names others : List String} {module other : String}
    (hnames : Separate names) (hothers : Separate others) (hne : names ≠ [])
    (hne' : others ≠ []) (h : importLine names module = importLine others other) :
    names = others := by
  obtain rfl := Component.module_eq_of_importLine hnames.unquoted hothers.unquoted h
  simp only [importLine, String.append_left_inj, String.append_right_inj] at h
  exact hnames.eq_of_join hothers hne hne' h

/-- The names that a class imports are those of the imports that it starts with. -/
theorem Component.importsName_iff {c : Component} {imports : List (List String × String)}
    {rest : List String} (hcode : c.code = imports.map (fun i => importLine i.1 i.2) ++ rest)
    (hnames : ∀ i ∈ imports, Separate i.1 ∧ i.1 ≠ []) (hrest : NoImports rest)
    (name : String) : c.ImportsName name ↔ ∃ i ∈ imports, name ∈ i.1 := by
  constructor
  · rintro ⟨names, module, hseparate, hname, hline⟩
    rw [hcode, List.mem_append] at hline
    rcases hline with hline | hline
    · obtain ⟨i, hi, heq⟩ := List.mem_map.mp hline
      have hsame := (hnames i hi).1.eq_of_importLine hseparate (hnames i hi).2
        (List.ne_nil_of_mem hname) heq
      exact ⟨i, hi, hsame ▸ hname⟩
    · exact absurd (hrest _ hline) (not_notImport_importLine names module)
  · rintro ⟨i, hi, hname⟩
    refine ⟨i.1, i.2, (hnames i hi).1, hname, ?_⟩
    rw [hcode, List.mem_append, List.mem_map]
    exact .inl ⟨i, hi, rfl⟩

namespace Control

def controlStart : String := "  readonly control = "

def itemStart : String := "  private readonly itemValidators: ValidatorFn[] = "

def childStart : String := "  readonly childValidators: ValidatorFn[] = "

/-- Two blanks and letters that only some members of a class start with. -/
inductive MemberStart : String → Prop
  | shown (rest : List Char) : MemberStart (String.ofList (' ' :: ' ' :: 'r' :: 'e' :: 'a' :: rest))
  | hidden (rest : List Char) : MemberStart (String.ofList (' ' :: ' ' :: 'p' :: rest))

variable {start : String} {rests : List String}

theorem noneOpens_imports (h : Differs start "import \x7b ") (t : Trail) (f : Field)
    (types : List String) : NoneOpens start (imports t f types) := by
  have himport (names : List String) (module : String) :
      Misses start (importLine names module) :=
    misses_importLine h names module
  exact .append (.cons (himport _ _) (.cons (himport _ _) .nil))
    (.when _ (.cons (himport _ _) .nil))

theorem noneOpens_componentImports (h : Differs start "import \x7b ")
    (inner : List Registration) : NoneOpens start (componentImports inner) := by
  intro line hline
  obtain ⟨r, _, rfl⟩ := List.mem_map.mp hline
  exact misses_importLine h _ _

theorem MemberStart.differs_import (h : MemberStart start) : Differs start "import \x7b " := by
  cases h <;> exact .of_lists rfl

theorem MemberStart.decorator (h : MemberStart start) (selector stem : String)
    (imports : List String) : NoneOpens start (Component.decorator selector stem imports) := by
  cases h <;> exact noneOpens_decorator (by decide) _ _ _

theorem noneOpens_classHead (h : MemberStart start) (t : Trail) (f : Field) :
    NoneOpens start (classHead t f) := by
  have hclass : Differs start "export class " := by cases h <;> exact .of_lists rfl
  refine .cons ((hclass.append _).append _).misses ?_
  cases h <;> exact .cons (.of_lists rfl) (.cons (.of_lists rfl) (.cons (.of_lists rfl) .nil))

theorem misses_addLine (h : MemberStart start) (f : Field) : Misses start (addLine f) := by
  cases h <;> exact (Differs.append (.append (.of_lists rfl) _) _).misses

theorem misses_extraLine (h : MemberStart start) : Misses start extraLine := by
  cases h <;> exact .of_lists rfl

/-- The lines of a leaf with validators are among the members of its control. -/
theorem opening_leafCode (h : MemberStart start) {f : Field}
    (hoptions : Misses start (optionsLine f))
    (hmembers : Opening start rests
      (if f.kind == .list then listMembers f else [valueMember f]))
    (t : Trail) : Opening start rests (leafCode t f) := by
  have hblank : Misses start "" := by cases h <;> exact .of_lists rfl
  simp only [leafCode, List.append_assoc]
  refine .skip (noneOpens_imports h.differs_import _ _ _) (.skip (.cons hblank .nil) ?_)
  refine .skip (h.decorator _ _ _) (.skip (noneOpens_classHead h t f) ?_)
  refine .skip (.when _ (.cons hblank (.cons hoptions .nil))) (.skip (.cons hblank .nil) ?_)
  refine .before hmembers (.append (.cons hblank (.cons ?_ .nil)) (.append (.when _ ?_) ?_))
  · cases h <;> exact .of_lists rfl
  · exact .cons (misses_extraLine h) .nil
  · refine .cons (misses_addLine h f) ?_
    cases h <;> exact .cons (.of_lists rfl) (.cons (.of_lists rfl) .nil)

/-- The members of a group for its control and for its children. -/
def groupMembers (f : Field) : List String :=
  ["  readonly control = new FormGroup(\x7b\x7d, [" ++ definitions f.direct ++ "]);",
    "  /** Validators applied to every child control. */",
    "  readonly childValidators: ValidatorFn[] = [" ++ definitions f.lifted ++ "];"]

/-- The lines of a group with validators are among these members. -/
theorem opening_groupCode (h : MemberStart start) {f : Field}
    (hmembers : Opening start rests (groupMembers f)) (t : Trail)
    (inner : List Registration) : Opening start rests (groupCode t f inner) := by
  have hblank : Misses start "" := by cases h <;> exact .of_lists rfl
  simp only [groupCode, List.append_assoc]
  refine .skip (noneOpens_imports h.differs_import _ _ _)
    (.skip (noneOpens_componentImports h.differs_import inner) ?_)
  refine .skip (.cons hblank .nil) (.skip (h.decorator _ _ _) ?_)
  refine .skip (noneOpens_classHead h t f) (hmembers.before (.cons hblank (.cons ?_ ?_)))
  · cases h <;> exact .of_lists rfl
  · refine .cons (misses_extraLine h) (.cons (misses_addLine h f) ?_)
    cases h <;> exact .cons (.of_lists rfl) (.cons (.of_lists rfl) .nil)

/-- What the line of the control goes on with, for a list, another leaf or a group. -/
def controlRest (f : Field) : String :=
  if f.children?.isSome then "new FormGroup(\x7b\x7d, [" ++ definitions f.direct ++ "]);"
  else if f.kind = .list then
    "new FormArray<FormControl<unknown>>([], [" ++ definitions f.direct ++ "]);"
  else "new FormControl<" ++ f.valueType ++ " | null>(null, [" ++ definitions f.direct ++ "]);"

/-- What a line of handed down validators goes on with. -/
def liftedRest (f : Field) : String := "[" ++ definitions f.lifted ++ "];"

/-- Behind its two arrays a list has nothing that starts like a member. -/
theorem noneOpens_listMembers (h : MemberStart start) (f : Field) :
    NoneOpens start ((listMembers f).drop 2) := by
  cases h
  all_goals exact .cons (.of_lists rfl) (.cons (.of_lists rfl) (.cons (.of_lists rfl)
    (.cons (.of_lists rfl) (.cons (.of_lists rfl) (.cons (.of_lists rfl)
      (.cons (.of_lists rfl) (.cons (.of_lists rfl) .nil)))))))

theorem code_of_children {t : Trail} {f : Field} {fs : List Field}
    (h : f.children? = some fs) :
    (f.component t).code = groupCode t f (fs.map (Field.registration (t.down f))) := by
  unfold Field.component
  rw [h]

theorem code_of_leaf {t : Trail} {f : Field} (h : f.children? = none) :
    (f.component t).code = leafCode t f := by
  unfold Field.component
  rw [h]

theorem append_eq_start {line start head : String} (h : line = start ++ head)
    (rest : String) : line ++ rest = start ++ (head ++ rest) := by
  rw [h, String.append_assoc]

/-- The lines with validators of a class are among the members of a group, of a list or of
a single value. -/
theorem opening_code (h : MemberStart start) {f : Field}
    (hoptions : Differs start "  readonly options: Array<")
    (hgroup : f.children?.isSome = true → Opening start rests (groupMembers f))
    (hlist : f.children? = none → f.kind = .list → Opening start rests (listMembers f))
    (hvalue : f.children? = none → f.kind ≠ .list → Opening start rests [valueMember f])
    (t : Trail) : Opening start rests (f.component t).code := by
  cases hchildren : f.children? with
  | some fs =>
      rw [code_of_children hchildren]
      exact opening_groupCode h (hgroup (by rw [hchildren]; rfl)) t _
  | none =>
      rw [code_of_leaf hchildren]
      refine opening_leafCode h ?_ ?_ t
      · exact (Differs.append (.append (.append (.append hoptions _) _) _) _).misses
      · by_cases hmany : f.kind = .list
        · rw [if_pos (beq_iff_eq.mpr hmany)]
          exact hlist hchildren hmany
        · rw [if_neg (mt beq_iff_eq.mp hmany)]
          exact hvalue hchildren hmany

theorem misses_array {head : String} (h : Differs start head) (vs : List Validator)
    (tail : String) : Misses start (head ++ definitions vs ++ tail) :=
  ((h.append _).append _).misses

theorem misses_valueMember (f : Field)
    (h : Differs start "  readonly control = new FormControl<") : Misses start (valueMember f) :=
  (Differs.append (.append (.append (.append h _) _) _) _).misses

theorem opening_control (t : Trail) (f : Field) :
    Opening controlStart [controlRest f] (f.component t).code := by
  refine opening_code (.shown _) (.of_lists rfl) ?_ ?_ ?_ t
  · intro hgroup
    rw [controlRest, if_pos hgroup]
    refine .here ?_ (NoneOpens.opening (.cons (.of_lists rfl) (.cons ?_ .nil)))
    · exact append_eq_start (append_eq_start (by decide) _) _
    · exact misses_array (.of_lists rfl) _ _
  · intro hleaf hlist
    rw [controlRest, hleaf, if_neg nofun, if_pos hlist]
    refine .here ?_ (NoneOpens.opening (.cons ?_ (noneOpens_listMembers (.shown _) f)))
    · exact append_eq_start (append_eq_start (by decide) _) _
    · exact misses_array (.of_lists rfl) _ _
  · intro hleaf hvalue
    rw [controlRest, hleaf, if_neg nofun, if_neg hvalue]
    refine .here ?_ (NoneOpens.opening .nil)
    exact append_eq_start (append_eq_start (append_eq_start (append_eq_start
      (by decide) _) _) _) _

/-- Of the leaves only lists hand validators down. -/
theorem opening_items (t : Trail) (f : Field) :
    Opening itemStart (if f.children? = none ∧ f.kind = .list then [liftedRest f] else [])
      (f.component t).code := by
  refine opening_code (.hidden _) (.of_lists rfl) ?_ ?_ ?_ t
  · intro hgroup
    rw [if_neg fun h => Option.isSome_iff_ne_none.mp hgroup h.1]
    refine NoneOpens.opening (.cons ?_ (.cons (.of_lists rfl) (.cons ?_ .nil)))
    · exact misses_array (.of_lists rfl) _ _
    · exact misses_array (.of_lists rfl) _ _
  · intro hleaf hlist
    rw [if_pos ⟨hleaf, hlist⟩]
    refine .next (misses_array (.of_lists rfl) _ _) (.here ?_ (NoneOpens.opening ?_))
    · exact append_eq_start (append_eq_start (by decide) _) _
    · exact noneOpens_listMembers (.hidden _) f
  · intro _ hvalue
    rw [if_neg fun h => hvalue h.2]
    exact NoneOpens.opening (.cons (misses_valueMember f (.of_lists rfl)) .nil)

/-- Groups hand their validators down. -/
theorem opening_children (t : Trail) (f : Field) :
    Opening childStart (if f.children?.isSome then [liftedRest f] else [])
      (f.component t).code := by
  refine opening_code (.shown _) (.of_lists rfl) ?_ ?_ ?_ t
  · intro hgroup
    rw [if_pos hgroup]
    refine .next (misses_array (.of_lists rfl) _ _) (.next (.of_lists rfl) (.here ?_ rfl))
    exact append_eq_start (append_eq_start (by decide) _) _
  · intro hleaf _
    rw [hleaf, if_neg nofun]
    refine NoneOpens.opening (.cons ?_ (.cons ?_ (noneOpens_listMembers (.shown _) f)))
    · exact misses_array (.of_lists rfl) _ _
    · exact misses_array (.of_lists rfl) _ _
  · intro hleaf _
    rw [hleaf, if_neg nofun]
    exact NoneOpens.opening (.cons (misses_valueMember f (.of_lists rfl)) .nil)

/-- The validators in the line of a control: the last argument of the call. -/
def controlArray (line : String) : List String := lastList ((lastList line).getLastD "")

section Arrays

variable {vs : List Validator} (hvs : ∀ v ∈ vs, IsItem v.definition)
include hvs

theorem expressions_definitions : expressions (definitions vs) = vs.map (·.definition) := by
  apply expressions_join
  intro d hd
  obtain ⟨v, hv, rfl⟩ := List.mem_map.mp hd
  exact hvs v hv

theorem balanced_definitions : Balanced true (definitions vs).toList := by
  apply Balanced.join balanced_comma
  intro d hd
  obtain ⟨v, hv, rfl⟩ := List.mem_map.mp hd
  exact (hvs v hv).balanced.loosen

theorem lastList_definitions {line : String} {before after : List Char}
    (hbefore : Balanced true before) (hafter : isPlainText after = true)
    (hline : line.toList = before ++ '[' :: ((definitions vs).toList ++ ']' :: after)) :
    lastList line = vs.map (·.definition) := by
  rw [lastList_eq hbefore (by decide) (balanced_definitions hvs) (by decide) hafter hline,
    String.ofList_toList, expressions_definitions hvs]

theorem controlArray_eq {line first : String} {before : List Char}
    (hbefore : Balanced true before) (hfirst : IsItem first)
    (hline : line.toList = before ++
      '(' :: ((Text.join ", " [first, "[" ++ definitions vs ++ "]"]).toList ++ [')', ';'])) :
    controlArray line = vs.map (·.definition) := by
  have hlist : ("[" ++ definitions vs ++ "]").toList =
      [] ++ '[' :: ((definitions vs).toList ++ ']' :: []) := by
    simp [String.toList_append]
  have hbalanced : Balanced false ("[" ++ definitions vs ++ "]").toList := by
    rw [hlist]
    exact .bracket (by decide) (by decide) (balanced_definitions hvs) .nil
  have hitems : ∀ x ∈ [first, "[" ++ definitions vs ++ "]"], IsItem x := by
    simp only [List.forall_mem_cons]
    exact ⟨hfirst, .of_head hbalanced (c := '[') (by rw [hlist]; rfl) (by decide), nofun⟩
  have hinner : Balanced true
      (Text.join ", " [first, "[" ++ definitions vs ++ "]"]).toList :=
    .join balanced_comma fun x hx => (hitems x hx).balanced.loosen
  rw [controlArray,
    lastList_eq hbefore (by decide) hinner (by decide) (by decide) hline,
    String.ofList_toList, expressions_join hitems]
  exact lastList_definitions hvs .nil (by decide) hlist

end Arrays

/-- The type of what a leaf holds closes its brackets. -/
theorem balanced_valueType {f : Field} (h : f.children? = none) :
    Balanced true f.valueType.toList := by
  have hmany : Balanced true "unknown[]".toList :=
    (Balanced.of_text "unknown" (by decide)).append (.bracket (by decide) (by decide) .nil .nil)
  have henumeration (values : List Value) : Balanced true (enumerationType values).toList := by
    unfold enumerationType
    split
    · exact .of_text _ (by decide)
    · refine .join (.of_text _ (by decide)) fun text htext => ?_
      obtain ⟨v, _, rfl⟩ := List.mem_map.mp htext
      exact (balanced_text v).loosen
  have hopen : Balanced true (recordType []).toList :=
    (Balanced.of_text "Record<string" (by decide)).append
      (.plain (by decide) (.inl rfl) (.of_text " unknown>" (by decide)))
  obtain ⟨n, d, kind, vs, x, values, u, children?, format, placeholder, hint, rule⟩ := f
  obtain rfl : children? = none := h
  cases kind with
  | list => exact hmany
  | enumeration => exact henumeration _
  | complex => exact hopen
  | either => exact hopen
  | boolean => exact .of_text "boolean" (by decide)
  | number => exact .of_text "number" (by decide)
  | _ => exact .of_text "string" (by decide)

theorem controlArray_control {f : Field} (h : ∀ v ∈ f.direct, IsItem v.definition) :
    controlArray (controlStart ++ controlRest f) = f.direct.map (·.definition) := by
  have hstart : Balanced true controlStart.toList := .of_text _ (by decide)
  unfold controlRest
  split_ifs with hgroup hlist
  · have hhead := hstart.append (.of_text "new FormGroup" (by decide))
    have hempty : IsItem "\x7b\x7d" :=
      .of_head (.bracket (by decide) (by decide) .nil .nil) (c := '\x7b') rfl (by decide)
    apply controlArray_eq h hhead hempty
    simp [String.toList_append, Text.join]
  · have hhead := hstart.append (.of_text "new FormArray<FormControl<unknown>>" (by decide))
    have hempty : IsItem "[]" :=
      .of_head (.bracket (by decide) (by decide) .nil .nil) (c := '[') rfl (by decide)
    apply controlArray_eq h hhead hempty
    simp [String.toList_append, Text.join]
  · have hleaf : f.children? = none := by simpa using hgroup
    have hhead := hstart.append ((Balanced.of_text "new FormControl<" (by decide)).append
      ((balanced_valueType hleaf).append (.of_text " | null>" (by decide))))
    have hnull : IsItem "null" := .of_head (.of_text _ (by decide)) (c := 'n') rfl (by decide)
    apply controlArray_eq h hhead hnull
    simp [String.toList_append, Text.join]

theorem lastList_lifted {start : String} {f : Field} (hstart : Balanced true start.toList)
    (h : ∀ v ∈ f.lifted, IsItem v.definition) :
    lastList (start ++ liftedRest f) = f.lifted.map (·.definition) := by
  apply lastList_definitions h hstart (by decide : isPlainText [';'] = true)
  simp [liftedRest, String.toList_append]

theorem exists_mem_ownImports_iff {t : Trail} {f : Field} {types : List String}
    {name : String} :
    (∃ i ∈ ownImports t f types, name ∈ i.1) ↔
      name ∈ ["Component", "Input", "OnInit"] ∨ name ∈ types ∨
        (usesBuiltIn f = true ∧ name = "Validators") ∨
          usesShared f = true ∧ name = "FormValidators" := by
  unfold ownImports
  cases usesBuiltIn f <;> cases usesShared f <;> simp [Component.when, or_assoc]

theorem separate_ownImports (t : Trail) (f : Field) {types : List String} (hne : types ≠ [])
    (htypes : ∀ n ∈ types, n ∈ formTypes) :
    ∀ i ∈ ownImports t f types, Separate i.1 ∧ i.1 ≠ [] := by
  have hcore : Separate ["Component", "Input", "OnInit"] := by decide
  have hforms : Separate formTypes := by decide
  have hvalidators : Separate ["Validators", "FormValidators"] := by decide
  intro i hi
  constructor
  · intro n hn
    rcases exists_mem_ownImports_iff.mp ⟨i, hi, hn⟩ with hn | hn | ⟨_, rfl⟩ | ⟨_, rfl⟩
    · exact hcore n hn
    · exact hforms n (htypes n hn)
    · exact hvalidators _ (by decide)
    · exact hvalidators _ (by decide)
  · unfold ownImports at hi
    revert i
    cases usesShared f <;> simp [hne]

theorem className_ne {name : String} (h : name.toList.getLast? ≠ some 't')
    (segments : List String) : className segments ≠ name := by
  rintro rfl
  apply h
  rw [className, String.toList_append]
  exact List.getLast?_append_of_ne_nil _ (by decide)

end Control

open Control

/-- Apart from the framework's own types and the components inside, the class of a field
imports the validators that it uses. -/
theorem Field.importsName_iff (t : Trail) (f : Field) {name : String}
    (hlast : name.toList.getLast? ≠ some 't')
    (htype : name ∉ ["Component", "Input", "OnInit"] ∧ name ∉ formTypes) :
    (f.component t).ImportsName name ↔
      (usesBuiltIn f = true ∧ name = "Validators") ∨
        usesShared f = true ∧ name = "FormValidators" := by
  obtain ⟨types, rest, ⟨hne, htypes⟩, hrest, _, hcode⟩ := f.exists_code_eq t
  have hinner : ∀ i ∈ innerImports (f.children.map (registration (t.down f))),
      ∃ segments, i.1 = [className segments] := by
    intro i hi
    obtain ⟨r, hr, rfl⟩ := List.mem_map.mp hi
    obtain ⟨g, _, rfl⟩ := List.mem_map.mp hr
    exact ⟨_, rfl⟩
  have hclass : ¬∃ i ∈ innerImports (f.children.map (registration (t.down f))),
      name ∈ i.1 := by
    rintro ⟨i, hi, hname⟩
    obtain ⟨segments, hsegments⟩ := hinner i hi
    rw [hsegments] at hname
    exact className_ne hlast segments (List.mem_singleton.mp hname).symm
  rw [Component.importsName_iff hcode _ hrest]
  · simp only [List.mem_append, or_and_right, exists_or]
    rw [exists_mem_ownImports_iff, or_iff_left hclass, or_iff_right htype.1,
      or_iff_right fun hname => htype.2 (htypes name hname)]
  · refine List.forall_mem_append.mpr ⟨separate_ownImports t f hne htypes, ?_⟩
    intro i hi
    obtain ⟨segments, hsegments⟩ := hinner i hi
    rw [hsegments]
    refine ⟨?_, List.cons_ne_nil _ _⟩
    intro n hn
    rw [List.mem_singleton.mp hn]
    exact ⟨not_mem_className (by decide) segments, not_mem_className (by decide) segments⟩

namespace Component

/-- The arrays in the lines of a control. -/
def controlArrays (c : Component) : List (List String) :=
  (c.code.filter (opensWith controlStart)).map controlArray

/-- The arrays of the validators that are handed down to items. -/
def itemArrays (c : Component) : List (List String) :=
  (c.code.filter (opensWith itemStart)).map lastList

/-- The arrays of the validators that are handed down to children. -/
def childArrays (c : Component) : List (List String) :=
  (c.code.filter (opensWith childStart)).map lastList

/-- The definitions in all arrays of the class. -/
def listed (c : Component) : List String :=
  (c.controlArrays ++ c.itemArrays ++ c.childArrays).flatten

end Component

/-- The class of a field lists the validators of the field: those of its own in the array
of its control, the others in that for its items or children, all of them in order.  It
imports what they are taken from. -/
structure Field.ListsValidators (f : Field) (c : Component) : Prop where
  control : c.controlArrays = [f.direct.map (·.definition)]
  items : c.itemArrays = if f.kind = .list then [f.lifted.map (·.definition)] else []
  children : c.childArrays =
    if f.children?.isSome then [f.lifted.map (·.definition)] else []
  leaf : f.kind ≠ .list → f.children? = none → f.lifted = []
  once : c.listed.Perm (f.validators.map (·.definition))
  known : ∀ d ∈ c.listed, d = requiredDefinition ∨
    ∃ factory arguments, IsShared factory ∧ d = call factory arguments
  builtIn : c.ImportsName "Validators" ↔ ∃ d ∈ c.listed, "Validators".toList <+: d.toList
  shared : c.ImportsName "FormValidators" ↔
    ∃ d ∈ c.listed, "FormValidators".toList <+: d.toList

namespace Field

variable {f : Field}

theorem controlArrays_component (t : Trail) (h : ∀ v ∈ f.direct, IsItem v.definition) :
    (f.component t).controlArrays = [f.direct.map (·.definition)] := by
  rw [Component.controlArrays, opening_control t f, List.map_singleton, List.map_singleton,
    controlArray_control h]

/-- An array of lifted validators is read from its line. -/
theorem map_lastList_of_opening {start n : String} {code : List String} {condition : Prop}
    [Decidable condition] (hstart : start = n ++ ": ValidatorFn[] = ")
    (hname : isPlainText n.toList = true)
    (h : ∀ v ∈ f.lifted, IsItem v.definition)
    (hopening : Opening start (if condition then [liftedRest f] else []) code) :
    (code.filter (opensWith start)).map lastList =
      if condition then [f.lifted.map (·.definition)] else [] := by
  have htype : Balanced true ": ValidatorFn[] = ".toList :=
    (Balanced.of_text ": ValidatorFn" (by decide)).append
      (.bracket (by decide) (by decide) .nil (.of_text " = " (by decide)))
  have hbalanced : Balanced true start.toList := by
    rw [hstart, String.toList_append]
    exact (Balanced.of_text n hname).append htype
  rw [hopening]
  split
  · rw [List.map_singleton, List.map_singleton, lastList_lifted hbalanced h]
  · rfl

theorem itemArrays_component (t : Trail) (h : ∀ v ∈ f.lifted, IsItem v.definition) :
    (f.component t).itemArrays =
      if f.children? = none ∧ f.kind = .list then [f.lifted.map (·.definition)] else [] :=
  map_lastList_of_opening (n := "  private readonly itemValidators") (by decide) (by decide) h
    (opening_items t f)

theorem childArrays_component (t : Trail) (h : ∀ v ∈ f.lifted, IsItem v.definition) :
    (f.component t).childArrays =
      if f.children?.isSome then [f.lifted.map (·.definition)] else [] :=
  map_lastList_of_opening (n := "  readonly childValidators") (by decide) (by decide) h
    (opening_children t f)

end Field

namespace PropertyOf

variable {p : Property DataType} {v : Validator}

/-- A validator is taken from the framework or from the shared module, as its definition
starts. -/
theorem isFrom_iff (hv : v ∈ p.validators) :
    (isFrom "Validators." v = true ↔ "Validators".toList <+: v.definition.toList) ∧
      (isFrom sharedClass v = true ↔ "FormValidators".toList <+: v.definition.toList) := by
  rcases validators_cases hv with rfl | ⟨hcalls, _⟩
  · decide
  · obtain ⟨factory, _, arguments, hdefinition, _⟩ := hcalls
    have hlist := toList_call factory arguments
    rw [← hdefinition] at hlist
    have hprefix : sharedClass.toList <+: v.definition.toList := ⟨_, hlist.symm⟩
    have hframework {start : String} (hstart : differ start.toList sharedClass.toList = true) :
        ¬start.toList <+: v.definition.toList := by
      rw [← List.isPrefixOf_iff_prefix, hlist, Bool.not_eq_true]
      exact not_isPrefixOf_of_differ (differ_append hstart _)
    constructor
    · rw [isFrom, List.isPrefixOf_iff_prefix]
      exact iff_of_false (hframework (by decide)) (hframework (by decide))
    · rw [isFrom, List.isPrefixOf_iff_prefix]
      exact iff_of_true hprefix ((by decide : "FormValidators".toList <+: sharedClass.toList).trans
        hprefix)

theorem isSome_children?_composeField (config : Config) (p : Property DataType) :
    (composeField config p).children?.isSome = p.kind.hasChildren := by
  rw [composeField_eq, children?_toField]
  cases p.kind.hasChildren <;> rfl

theorem children?_composeField_eq_none_iff (config : Config) (p : Property DataType) :
    (composeField config p).children? = none ↔ p.kind.hasChildren = false := by
  rw [← isSome_children?_composeField config p, Option.isSome_eq_false_iff,
    Option.isNone_iff_eq_none]

section Composed

variable (config : Config) (p : Property DataType)

theorem isItem_of_mem_composed : ∀ v ∈ (composeField config p).validators,
    IsItem v.definition := by
  intro v hv
  rw [validators_composeField] at hv
  exact isItem_definition hv

/-- A leaf that is no list checks all itself. -/
theorem lifted_eq_nil (hlist : p.kind ≠ .list) (hleaf : p.kind.hasChildren = false) :
    (composeField config p).lifted = [] := by
  have hlifts : p.kind.liftsRange = false := by
    cases hkind : p.kind with
    | list => exact absurd hkind hlist
    | complex => rw [hkind] at hleaf; cases hleaf
    | _ => rfl
  rw [Field.lifted, validators_composeField, List.filter_eq_nil_iff]
  intro v hv
  rw [direct_of_mem_validators hlifts hv]
  decide

/-- The array for items is there for lists only, since no list is a group. -/
theorem itemArrays_composed (t : Trail) :
    ((composeField config p).component t).itemArrays =
      if p.kind = .list then [(composeField config p).lifted.map (·.definition)] else [] := by
  have hcondition : (composeField config p).children? = none ∧
      (composeField config p).kind = .list ↔ p.kind = .list := by
    rw [kind_composeField, and_iff_right_iff_imp, children?_composeField_eq_none_iff]
    intro hlist
    rw [hlist]
    rfl
  rw [Field.itemArrays_component t fun v hv =>
    isItem_of_mem_composed config p v (List.mem_of_mem_filter hv)]
  simp only [hcondition]

theorem childArrays_composed (t : Trail) :
    ((composeField config p).component t).childArrays =
      if p.kind.hasChildren then [(composeField config p).lifted.map (·.definition)]
      else [] := by
  rw [Field.childArrays_component t fun v hv =>
    isItem_of_mem_composed config p v (List.mem_of_mem_filter hv),
    isSome_children?_composeField]

theorem controlArrays_composed (t : Trail) :
    ((composeField config p).component t).controlArrays =
      [(composeField config p).direct.map (·.definition)] :=
  Field.controlArrays_component t fun v hv =>
    isItem_of_mem_composed config p v (List.mem_of_mem_filter hv)

theorem listed_composed (t : Trail) :
    ((composeField config p).component t).listed =
      (composeField config p).direct.map (·.definition) ++
        (composeField config p).lifted.map (·.definition) := by
  rw [Component.listed, controlArrays_composed, itemArrays_composed, childArrays_composed]
  by_cases hlist : p.kind = .list
  · simp [hlist, FieldKind.hasChildren]
  · cases hgroup : p.kind.hasChildren with
    | true => simp [hlist]
    | false => simp [hlist, lifted_eq_nil config p hlist hgroup]

theorem listed_perm (t : Trail) :
    ((composeField config p).component t).listed.Perm
      ((composeField config p).validators.map (·.definition)) := by
  have hsplit := List.filter_append_perm Validator.direct (composeField config p).validators
  rw [listed_composed, ← List.map_append]
  exact hsplit.map Validator.definition

theorem mem_listed_iff {t : Trail} {d : String} :
    d ∈ ((composeField config p).component t).listed ↔
      ∃ v ∈ p.validators, v.definition = d := by
  rw [(listed_perm config p t).mem_iff, validators_composeField, List.mem_map]

theorem any_isFrom_iff {owner name : String} (t : Trail)
    (h : ∀ v ∈ p.validators,
      isFrom owner v = true ↔ name.toList <+: v.definition.toList) :
    (composeField config p).validators.any (isFrom owner) = true ↔
      ∃ d ∈ ((composeField config p).component t).listed, name.toList <+: d.toList := by
  rw [List.any_eq_true, validators_composeField]
  constructor
  · rintro ⟨v, hv, hfrom⟩
    exact ⟨v.definition, (mem_listed_iff config p).mpr ⟨v, hv, rfl⟩, (h v hv).mp hfrom⟩
  · rintro ⟨d, hd, hprefix⟩
    obtain ⟨v, hv, rfl⟩ := (mem_listed_iff config p).mp hd
    exact ⟨v, hv, (h v hv).mpr hprefix⟩

theorem listsValidators_composed (t : Trail) :
    (composeField config p).ListsValidators ((composeField config p).component t) where
  control := controlArrays_composed config p t
  items := by rw [itemArrays_composed, kind_composeField]
  children := by rw [childArrays_composed, isSome_children?_composeField]
  leaf := by
    rw [kind_composeField, children?_composeField_eq_none_iff]
    exact lifted_eq_nil config p
  once := listed_perm config p t
  known := by
    intro d hd
    obtain ⟨v, hv, rfl⟩ := (mem_listed_iff config p).mp hd
    rcases validators_cases hv with rfl | ⟨⟨factory, hfactory, arguments, hcall, _⟩, _⟩
    · exact .inl rfl
    · exact .inr ⟨factory, arguments, isShared_of_mem hfactory, hcall⟩
  builtIn := by
    rw [Field.importsName_iff t _ (by decide) (by decide),
      ← any_isFrom_iff config p t fun v hv => (isFrom_iff hv).1]
    simp [usesBuiltIn]
  shared := by
    rw [Field.importsName_iff t _ (by decide) (by decide),
      ← any_isFrom_iff config p t fun v hv => (isFrom_iff hv).2]
    simp [usesShared]

end Composed

end PropertyOf

namespace ValidatorArraysWitness

/-- A list of numbers in a range. -/
def speeds : Property DataType :=
  ⟨"speeds", none, false, none,
    .trait "Speeds"
      (.collection "Speeds" .list
        (some (.scalar "http://www.w3.org/2001/XMLSchema#integer")) none)
      [.range none (some (.number (.int 0))) (some (.number (.int 90))) .atLeast .lessThan,
        .length none (some 1) none]⟩

def track : Element DataType := ⟨"Track", none, [speeds]⟩

def placed : PlacedField := ⟨{}, composeField {} speeds⟩

end ValidatorArraysWitness

end AspectForms
