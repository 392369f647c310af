import AspectForms.Model.Registry
import AspectForms.Proofs.FieldRecords

/-!
The value type of a form beside the controls that its classes make.  Main statement: the type of a field
says what its control holds unless the field is a structured value, which has a group for its control and
the type of a text; and a field has its type in its place in the value type unless it stands inside a
structured value.
-/

namespace AspectForms

open Script

structure MemberOf (τ : Type) where
  name : String
  optional : Bool
  type : τ

/-- A type in a script, taken apart into the members of objects.  An object without members
is open. -/
inductive TypeTree
  | plain (text : String)
  | object (members : List (MemberOf TypeTree))

mutual

/-- The text of a type. -/
def TypeTree.text : TypeTree → String
  | .plain s => s
  | .object ms => recordType (membersText ms)
termination_by structural t => t

def membersText : List (MemberOf TypeTree) → List String
  | [] => []
  | m :: ms => memberText m :: membersText ms
termination_by structural ms => ms

def memberText : MemberOf TypeTree → String
  | ⟨n, o, t⟩ => n ++ (if o then "?" else "") ++ ": " ++ t.text
termination_by structural m => m

end

/-- An object type has the type `t` at an address; the names lead there. -/
inductive TypeTree.Declares : TypeTree → List Nat → List String → TypeTree → Prop
  | member {ms i m} (hm : ms[i]? = some m) : Declares (.object ms) [i] [m.name] m.type
  | inside {ms i m address names t} (hm : ms[i]? = some m)
    (h : Declares m.type address names t) :
    Declares (.object ms) (i :: address) (m.name :: names) t

mutual

def Field.typeTree : Field → TypeTree
  | ⟨name, dashed, kind, validators, ex, values, unit, children, format, placeholder, hint, rule⟩ =>
    let f : Field :=
      ⟨name, dashed, kind, validators, ex, values, unit, children, format, placeholder, hint, rule⟩
    match kind with
    | .complex | .either => .object (memberTrees? children)
    | _ => .plain f.valueType
termination_by structural f => f

def memberTrees? : Option (List Field) → List (MemberOf TypeTree)
  | none => []
  | some fs => memberTrees fs
termination_by structural fs => fs

def memberTrees : List Field → List (MemberOf TypeTree)
  | [] => []
  | f :: fs => ⟨f.name, !f.isRequired, f.typeTree⟩ :: memberTrees fs
termination_by structural fs => fs

end

theorem memberTrees_eq (fs : List Field) :
    memberTrees fs = fs.map fun f => ⟨f.name, !f.isRequired, f.typeTree⟩ := by
  induction fs with
  | nil => rfl
  | cons f fs ih => rw [memberTrees, ih, List.map_cons]

namespace Field

theorem typeTree_eq (f : Field) :
    f.typeTree = if f.kind ∈ [.complex, .either] then .object (memberTrees f.children)
      else .plain f.valueType := by
  obtain ⟨n, d, kind, vs, x, values, u, children?, format, placeholder, hint, rule⟩ := f
  cases kind <;> cases children? <;> rfl

theorem valueType_eq_objectType {f : Field} (h : f.kind ∈ [.complex, .either]) :
    f.valueType = objectType f.children := by
  obtain ⟨n, d, kind, vs, x, values, u, children?, format, placeholder, hint, rule⟩ := f
  rcases List.mem_pair.mp h with rfl | rfl
  all_goals cases children? <;> rfl

theorem membersText_memberTrees {fs : List Field}
    (h : ∀ f ∈ fs, f.typeTree.text = f.valueType) :
    membersText (memberTrees fs) = memberTypes fs := by
  induction fs with
  | nil => rfl
  | cons f fs ih =>
      obtain ⟨hf, hfs⟩ := List.forall_mem_cons.mp h
      rw [memberTrees, membersText, memberTypes, memberText, hf, ih hfs]
      cases f.isRequired <;> rfl

/-- The type of a field is written as it is taken apart. -/
theorem text_typeTree (f : Field) : f.typeTree.text = f.valueType := by
  induction f using Field.induction with
  | step f ih =>
      rw [typeTree_eq]
      split
      · rename_i hobject
        rw [valueType_eq_objectType hobject, TypeTree.text, membersText_memberTrees ih]
        rfl
      · rfl

end Field

/-- The value type of a form, taken apart. -/
def formType (fields : List Field) : TypeTree := .object (memberTrees fields)

theorem text_formType (fields : List Field) : (formType fields).text = objectType fields := by
  rw [formType, TypeTree.text, Field.membersText_memberTrees fun f _ => f.text_typeTree]
  rfl

namespace TypeTree

variable {ms : List (MemberOf TypeTree)} {i : Nat} {address : List Nat} {names : List String}
  {t : TypeTree}

theorem declares_object_iff : (object ms).Declares (i :: address) names t ↔
    ∃ m, ms[i]? = some m ∧ (address = [] ∧ names = [m.name] ∧ t = m.type ∨
      ∃ rest, names = m.name :: rest ∧ m.type.Declares address rest t) := by
  constructor
  · intro h
    cases h with
    | member hm => exact ⟨_, hm, .inl ⟨rfl, rfl, rfl⟩⟩
    | inside hm h => exact ⟨_, hm, .inr ⟨_, rfl, h⟩⟩
  · rintro ⟨m, hm, ⟨rfl, rfl, rfl⟩ | ⟨rest, rfl, h⟩⟩
    · exact .member hm
    · exact .inside hm h

theorem not_declares_plain {s : String} : ¬(plain s).Declares address names t := nofun

theorem not_declares_nil {u : TypeTree} : ¬u.Declares [] names t := nofun

end TypeTree

/-- In a value type just those fields have a place that stand in objects only, and
each has its own type there. -/
theorem Node.declares_iff {fields : List Field} {n : Node} (hn : n.StandsIn fields)
    {t : TypeTree} : (formType fields).Declares n.address n.names t ↔
      t = n.field.typeTree ∧ ∀ f ∈ n.above, f.kind ∈ [.complex, .either] := by
  induction hn with
  | @top fields i f hf =>
      rw [formType, TypeTree.declares_object_iff, memberTrees_eq, List.getElem?_map, hf]
      simp [TypeTree.not_declares_nil, names, way]
  | @inside fields i f n hf hn ih =>
      rw [formType, TypeTree.declares_object_iff, memberTrees_eq, List.getElem?_map, hf]
      -- Below a type that is no object there are no places, though the forest may go on.
      have hinside : f.typeTree.Declares n.address n.names t ↔
          f.kind ∈ [.complex, .either] ∧ (formType f.children).Declares n.address n.names t := by
        rw [Field.typeTree_eq]
        split
        · rename_i hobject
          rw [and_iff_right hobject, formType]
        · rename_i hplain
          exact iff_of_false TypeTree.not_declares_plain fun h => hplain h.1
      have hnames : names ⟨i :: n.address, f :: n.above, n.field⟩ = f.name :: n.names := rfl
      rw [hnames, List.forall_mem_cons, and_left_comm, ← ih, ← hinside]
      simp [Node.address_ne_nil hn]

/-- What is known of a control from the text of its class: the names that are added to a
group, or that there is an array, or the type of a single value. -/
inductive ControlShape
  | group (names : List String)
  | array
  | single (type : String)

/-- A type is that of what a control of this shape holds. -/
inductive TypeTree.Describes : TypeTree → ControlShape → Prop
  | object {ms} : Describes (.object ms) (.group (ms.map MemberOf.name))
  | array {item} : Describes (.plain (item ++ "[]")) .array
  | single {t} : Describes t (.single t.text)

namespace Control

def addStart : String := "    this.parent.addControl('"

/-- What the line that adds a control goes on with. -/
def addRest (name : String) : String := name ++ "', this.control);"

def hostStart : String := "  <app-"

/-- What the line goes on with that places a component in a group. -/
def hostRest (segments : List String) : String :=
  dashedPath segments ++ " [parent]=\"control\" [extraValidators]=\"childValidators\"></" ++
    selector segments ++ ">"

def groupCall (f : Field) : String :=
  "new FormGroup(\x7b\x7d, [" ++ definitions f.direct ++ "]);"

/-- The call for an array, which is empty at first. -/
def arrayCall (f : Field) : String :=
  "new FormArray<FormControl<unknown>>([], [" ++ definitions f.direct ++ "]);"

/-- The call for a single value of a type, which is missing at first. -/
def singleCall (type : String) (f : Field) : String :=
  "new FormControl<" ++ type ++ " | null>(null, [" ++ definitions f.direct ++ "]);"

end Control

open Control

namespace Component

/-- The class has one control, which it makes by this call. -/
def Makes (c : Component) (call : String) : Prop := Opening controlStart [call] c.code

/-- The class adds its control to its parent once, by this name. -/
def AddsAs (c : Component) (name : String) : Prop := Opening addStart [addRest name] c.code

/-- The markup has just the components with these paths, in order, each with the control
as its parent. -/
def Hosts (c : Component) (paths : List (List String)) : Prop :=
  Opening hostStart (paths.map hostRest) c.markup

end Component

/-- The class of a field makes a control of this shape, by its own text and, for a group,
by the texts of the components in it. -/
inductive Field.Creates (t : Trail) (f : Field) : ControlShape → Prop
  | group {names}
    (hmakes : (f.component t).Makes (groupCall f))
    (hhosts : (f.component t).Hosts (f.children.map fun g => ((t.down f).down g).names))
    (hadds : List.Forall₂ (fun g name => (g.component (t.down f)).AddsAs name)
      f.children names) : Creates t f (.group names)
  | array (hmakes : (f.component t).Makes (arrayCall f)) : Creates t f .array
  | single {type} (hmakes : (f.component t).Makes (singleCall type f)) :
    Creates t f (.single type)

namespace Control

theorem groupCall_ne_arrayCall (f : Field) : groupCall f ≠ arrayCall f := by
  have hdiffers : Differs "new FormGroup(\x7b\x7d, ["
      "new FormArray<FormControl<unknown>>([], [" := .of_lists rfl
  unfold groupCall arrayCall
  rw [String.append_assoc, String.append_assoc]
  exact hdiffers.append_ne _ _

theorem groupCall_ne_singleCall (type : String) (f : Field) :
    groupCall f ≠ singleCall type f := by
  have hdiffers : Differs "new FormGroup(\x7b\x7d, [" "new FormControl<" := .of_lists rfl
  unfold groupCall singleCall
  simp only [String.append_assoc]
  exact hdiffers.append_ne _ _

theorem arrayCall_ne_singleCall (type : String) (f : Field) :
    arrayCall f ≠ singleCall type f := by
  have hdiffers : Differs "new FormArray<FormControl<unknown>>([], [" "new FormControl<" :=
    .of_lists rfl
  unfold arrayCall singleCall
  simp only [String.append_assoc]
  exact hdiffers.append_ne _ _

theorem noneOpens_addStart_decorator (selector stem : String) (imports : List String) :
    NoneOpens addStart (Component.decorator selector stem imports) :=
  noneOpens_decorator (by decide) _ _ _

theorem noneOpens_addStart_classHead (t : Trail) (f : Field) :
    NoneOpens addStart (classHead t f) := by
  refine .cons ?_ (.cons (.of_lists rfl) (.cons (.of_lists rfl) (.cons (.of_lists rfl) .nil)))
  exact (Differs.append (.append (.of_lists rfl) _) _).misses

theorem noneOpens_addStart_members (f : Field) :
    NoneOpens addStart (if f.kind == .list then listMembers f else [valueMember f]) := by
  split
  · refine .cons (misses_array (.of_lists rfl) _ _) (.cons (misses_array (.of_lists rfl) _ _) ?_)
    exact .cons (.of_lists rfl) (.cons (.of_lists rfl) (.cons (.of_lists rfl)
      (.cons (.of_lists rfl) (.cons (.of_lists rfl) (.cons (.of_lists rfl)
        (.cons (.of_lists rfl) (.cons (.of_lists rfl) .nil)))))))
  · exact .cons (misses_valueMember f (.of_lists rfl)) .nil

/-- The lines from the one that adds the control to the end of the class. -/
theorem opening_addLine (f : Field) :
    Opening addStart [addRest f.name] [addLine f, "  \x7d", "\x7d"] :=
  .here (append_eq_start rfl _) (.next (.of_lists rfl) (.next (.of_lists rfl) rfl))

theorem addsAs_component (t : Trail) (f : Field) : (f.component t).AddsAs f.name := by
  have hblank : NoneOpens addStart [""] := .cons (.of_lists rfl) .nil
  have hextra : NoneOpens addStart [extraLine] := .cons (.of_lists rfl) .nil
  have hinit : NoneOpens addStart ["", "  ngOnInit(): void \x7b"] :=
    .cons (.of_lists rfl) (.cons (.of_lists rfl) .nil)
  unfold Component.AddsAs
  cases hchildren : f.children? with
  | some fs =>
      have hcontrol : NoneOpens addStart (groupMembers f) :=
        .cons (misses_array (.of_lists rfl) _ _) (.cons (.of_lists rfl)
          (.cons (misses_array (.of_lists rfl) _ _) .nil))
      rw [code_of_children hchildren]
      simp only [groupCode, List.append_assoc]
      refine .skip (noneOpens_imports (.of_lists rfl) t f _)
        (.skip (noneOpens_componentImports (.of_lists rfl) _) (.skip hblank ?_))
      refine .skip (noneOpens_addStart_decorator _ _ _)
        (.skip (noneOpens_addStart_classHead t f) ?_)
      exact .skip hcontrol (.skip hinit (.skip hextra (opening_addLine f)))
  | none =>
      have hoptions : NoneOpens addStart ["", optionsLine f] := by
        refine .cons (.of_lists rfl) (.cons ?_ .nil)
        exact (Differs.append (.append (.append (.append (.of_lists rfl) _) _) _) _).misses
      rw [code_of_leaf hchildren]
      simp only [leafCode, List.append_assoc]
      refine .skip (noneOpens_imports (.of_lists rfl) t f _) (.skip hblank ?_)
      refine .skip (noneOpens_addStart_decorator _ _ _)
        (.skip (noneOpens_addStart_classHead t f) ?_)
      refine .skip (.when _ hoptions) (.skip hblank (.skip (noneOpens_addStart_members f) ?_))
      exact .skip hinit (.skip (.when _ hextra) (opening_addLine f))

theorem opening_hosts (t : Trail) (fs : List Field) :
    Opening hostStart ((fs.map fun g => (t.down g).names).map hostRest)
      ((fs.map (Field.registration t)).map fun r =>
        "  <" ++ r.selector ++ " [parent]=\"control\" [extraValidators]=\"childValidators\"></" ++
          r.selector ++ ">") := by
  induction fs with
  | nil => rfl
  | cons g fs ih =>
      refine .here ?_ ih
      have hselector : "  <" ++ selector (t.down g).names =
          hostStart ++ dashedPath (t.down g).names := by
        rw [selector, ← String.append_assoc]
        rfl
      simp only [Field.registration, hselector, hostRest, String.append_assoc]

theorem noneOpens_hostStart_hint (f : Field) : NoneOpens hostStart (hintMarkup f) := by
  unfold hintMarkup
  split
  · exact .cons (Differs.append (.append (.of_lists rfl) _) _).misses .nil
  · exact .nil

theorem hosts_component (t : Trail) {f : Field} {fs : List Field} (h : f.children? = some fs) :
    (f.component t).Hosts (fs.map fun g => ((t.down f).down g).names) := by
  have hhead : NoneOpens hostStart
      ["<fieldset class=\"group\">", "  <legend>" ++ f.label ++ "</legend>"] := by
    refine .cons (.of_lists rfl) (.cons ?_ .nil)
    exact (Differs.append (.append (.of_lists rfl) _) _).misses
  have herror : NoneOpens hostStart
      (errorMarkup "Please check the values of this group.") := by
    refine .cons (.of_lists rfl) (.cons ?_ (.cons (.of_lists rfl) .nil))
    exact (Differs.append (.append (.of_lists rfl) _) _).misses
  have hend : NoneOpens hostStart ["</fieldset>"] := .cons (.of_lists rfl) .nil
  have hmarkup : (f.component t).markup =
      groupMarkup f (fs.map (Field.registration (t.down f))) := by
    unfold Field.component
    rw [h]
  rw [Component.Hosts, hmarkup, groupMarkup]
  simp only [List.append_assoc]
  refine .skip hhead (.before (opening_hosts (t.down f) fs) ?_)
  exact .append (noneOpens_hostStart_hint f) (.append herror hend)

end Control

/-- The shape of the control of a field. -/
def Field.shape (f : Field) : ControlShape :=
  match f.children? with
  | some fs => .group (fs.map Field.name)
  | none => if f.kind = .list then .array else .single f.valueType

namespace Field

variable {t : Trail} {f : Field}

/-- The shape of a control goes with the call that makes it. -/
theorem shape_cases (f : Field) :
    (∃ fs, f.children? = some fs ∧ f.shape = .group (fs.map Field.name) ∧
      controlRest f = groupCall f) ∨
    (f.children? = none ∧ f.kind = .list ∧ f.shape = .array ∧
      controlRest f = arrayCall f) ∨
    (f.children? = none ∧ f.kind ≠ .list ∧ f.shape = .single f.valueType ∧
      controlRest f = singleCall f.valueType f) := by
  unfold shape controlRest
  cases hchildren : f.children? with
  | some fs => exact .inl ⟨fs, rfl, rfl, if_pos Option.isSome_some⟩
  | none =>
      by_cases hlist : f.kind = .list
      · exact .inr (.inl ⟨rfl, hlist, if_pos hlist, (if_neg nofun).trans (if_pos hlist)⟩)
      · exact .inr (.inr ⟨rfl, hlist, if_neg hlist, (if_neg nofun).trans (if_neg hlist)⟩)

theorem creates_shape (t : Trail) (f : Field) : f.Creates t f.shape := by
  have hmakes := opening_control t f
  rcases f.shape_cases with
    ⟨fs, hchildren, hshape, hcall⟩ | ⟨_, _, hshape, hcall⟩ | ⟨_, _, hshape, hcall⟩
  · have hfs : f.children = fs := by rw [children, hchildren, Option.getD_some]
    rw [hshape]
    refine .group (hcall ▸ hmakes) (hfs ▸ hosts_component t hchildren) ?_
    rw [hfs, List.forall₂_map_right_iff, List.forall₂_same]
    exact fun g _ => addsAs_component (t.down f) g
  · rw [hshape]
    exact .array (hcall ▸ hmakes)
  · rw [hshape]
    exact .single (hcall ▸ hmakes)

/-- The class of a field makes a control of no other shape. -/
theorem shape_of_creates {shape : ControlShape} (h : f.Creates t shape) : shape = f.shape := by
  have hcall {call : String} (hmakes : (f.component t).Makes call) : call = controlRest f :=
    hmakes.eq_of_singleton (opening_control t f)
  rcases f.shape_cases with
    ⟨fs, hchildren, hshape, hown⟩ | ⟨_, _, hshape, hown⟩ | ⟨_, _, hshape, hown⟩
  all_goals rw [hown] at hcall
  · cases h with
    | @group names hmakes _ hadds =>
        have hnames : f.children.map Field.name = names := by
          rw [← List.forall₂_eq_eq_eq, List.forall₂_map_left_iff]
          refine hadds.imp fun g name hname => ?_
          have hrest := hname.eq_of_singleton (addsAs_component (t.down f) g)
          rw [addRest, addRest, String.append_left_inj] at hrest
          exact hrest.symm
        rw [hshape, ← hnames, children, hchildren, Option.getD_some]
    | array hmakes => exact absurd (hcall hmakes).symm (groupCall_ne_arrayCall f)
    | single hmakes => exact absurd (hcall hmakes).symm (groupCall_ne_singleCall _ f)
  · cases h with
    | group hmakes => exact absurd (hcall hmakes) (groupCall_ne_arrayCall f)
    | array => exact hshape.symm
    | single hmakes => exact absurd (hcall hmakes).symm (arrayCall_ne_singleCall _ f)
  · cases h with
    | group hmakes => exact absurd (hcall hmakes) (groupCall_ne_singleCall _ f)
    | array hmakes => exact absurd (hcall hmakes) (arrayCall_ne_singleCall _ f)
    | single hmakes =>
        have heq := hcall hmakes
        unfold singleCall at heq
        simp only [String.append_left_inj, String.append_right_inj] at heq
        rw [hshape, heq]

end Field

theorem TypeTree.not_describes_group {s : String} {names : List String} :
    ¬(plain s).Describes (.group names) := by
  intro h
  cases h

/-- Just the fields that tell from their kind that they have others inside have groups. -/
def Field.GroupsByKind (f : Field) : Prop :=
  f.children?.isSome ↔ f.kind ∈ [.complex, .either, .structured]

theorem Element.groupsByKind {e : Element DataType} {config : Config} {f : Field}
    (hf : Field.OccursIn (e.fields config) f) : f.GroupsByKind := by
  obtain ⟨p, _, rfl⟩ := Element.occursIn_fields_iff.mp hf
  exact (represents_composeField config p).children

theorem map_name_memberTrees (fs : List Field) :
    (memberTrees fs).map MemberOf.name = fs.map Field.name := by
  rw [memberTrees_eq, List.map_map]
  rfl

/-- The type of a field describes its control unless the field is a structured value. -/
theorem Field.describes_shape_iff {f : Field} (h : f.GroupsByKind) :
    f.typeTree.Describes f.shape ↔ f.kind ≠ .structured := by
  have hleaf (hnone : f.children? = none) : f.kind ∉ [.complex, .either, .structured] := by
    intro hkind
    have hsome := h.mpr hkind
    rw [hnone] at hsome
    cases hsome
  have htext (hkind : f.kind ∉ [.complex, .either]) : f.typeTree = .plain f.valueType := by
    rw [typeTree_eq, if_neg hkind]
  rcases f.shape_cases with
    ⟨fs, hchildren, hshape, _⟩ | ⟨hnone, hlist, hshape, _⟩ | ⟨hnone, hvalue, hshape, _⟩
  · rw [hshape]
    -- All three kinds have groups, and one of them has the type of a text.
    by_cases hstructured : f.kind = .structured
    · rw [htext (by rw [hstructured]; decide)]
      exact iff_of_false TypeTree.not_describes_group (not_not_intro hstructured)
    · have hobject : f.kind ∈ [.complex, .either] := by
        have hkind := h.mp (Option.isSome_iff_exists.mpr ⟨fs, hchildren⟩)
        simpa [hstructured] using hkind
      refine iff_of_true ?_ hstructured
      rw [typeTree_eq, if_pos hobject, children, hchildren, ← map_name_memberTrees]
      exact .object
  · have htype : f.valueType = "unknown" ++ "[]" := by
      obtain ⟨n, d, kind, vs, x, values, u, children?, format, placeholder, hint, rule⟩ := f
      obtain rfl : kind = .list := hlist
      rfl
    rw [hshape, htext (by rw [hlist]; decide), htype]
    exact iff_of_true .array (by rw [hlist]; decide)
  · have hkind := hleaf hnone
    simp only [List.mem_cons, List.not_mem_nil, or_false, not_or] at hkind
    rw [hshape, ← text_typeTree]
    exact iff_of_true .single hkind.2.2

/-- What stands above a place has fields inside. -/
theorem Node.isSome_children?_of_above {fields : List Field} {n : Node}
    (hn : n.StandsIn fields) : ∀ f ∈ n.above, f.children?.isSome := by
  induction hn with
  | top hf => exact nofun
  | @inside fields i f n hf hn ih =>
      refine List.forall_mem_cons.mpr ⟨?_, ih⟩
      cases hchildren : f.children? with
      | some fs => rfl
      | none =>
          rw [Field.children, hchildren] at hn
          exact absurd hn (Node.not_standsIn_nil n)

namespace Form

def typeStart : String := "export type "

theorem noneOpens_typeStart_decorator (selector stem : String) (imports : List String) :
    NoneOpens typeStart (Component.decorator selector stem imports) := by
  refine .cons (.of_lists rfl) (.cons ?_ (.cons (.of_lists rfl) (.cons ?_ (.cons ?_
    (.cons (.of_lists rfl) .nil)))))
  all_goals exact (Differs.append (.append (.of_lists rfl) _) _).misses

/-- The class of the form from its first line on. -/
theorem noneOpens_typeStart_class (name : String) :
    NoneOpens typeStart
      (["export class " ++ name ++ " \x7b",
          "  @Output() submitted = new EventEmitter<" ++ name ++ "Value>();",
          "  readonly form = new FormGroup(\x7b\x7d);",
          "",
          "  onSubmit(): void \x7b",
          "    if (this.form.invalid) \x7b",
          "      this.form.markAllAsTouched();",
          "      return;",
          "    \x7d",
          "    this.submitted.emit(this.form.getRawValue() as " ++ name ++ "Value);",
          "  \x7d",
          "",
          "  reset(): void \x7b",
          "    this.form.reset();",
          "  \x7d",
          "\x7d"]) := by
  have hname {head tail : String} (h : Differs typeStart head) :
      Misses typeStart (head ++ name ++ tail) :=
    ((h.append _).append _).misses
  refine .cons (hname (.of_lists rfl)) (.cons (hname (.of_lists rfl)) ?_)
  refine .cons (.of_lists rfl) (.cons (.of_lists rfl) (.cons (.of_lists rfl)
    (.cons (.of_lists rfl) (.cons (.of_lists rfl) (.cons (.of_lists rfl)
      (.cons (.of_lists rfl) ?_))))))
  refine .cons (hname (.of_lists rfl)) ?_
  exact .cons (.of_lists rfl) (.cons (.of_lists rfl) (.cons (.of_lists rfl)
    (.cons (.of_lists rfl) (.cons (.of_lists rfl) (.cons (.of_lists rfl) .nil)))))

/-- The form declares one type, that of its value. -/
theorem opening_type (stem : String) (fields : List Field) (inner : List Registration) :
    Opening typeStart [className [stem] ++ "Value = " ++ (formType fields).text ++ ";"]
      (code stem fields inner) := by
  have himport (names : List String) (module : String) :
      Misses typeStart (Component.importLine names module) :=
    misses_importLine (.of_lists rfl) _ _
  have hinner : NoneOpens typeStart (componentImports inner) :=
    Control.noneOpens_componentImports (.of_lists rfl) inner
  have htype : Opening typeStart
      [className [stem] ++ "Value = " ++ (formType fields).text ++ ";"]
      ["", "export type " ++ className [stem] ++ "Value = " ++ objectType fields ++ ";", ""] := by
    rw [text_formType]
    refine .next (.of_lists rfl) (.here ?_ (.next (.of_lists rfl) rfl))
    exact append_eq_start (append_eq_start (append_eq_start rfl _) _) _
  unfold code
  simp only [List.append_assoc]
  refine .skip (.cons (himport _ _) (.cons (himport _ _) .nil)) (.skip hinner ?_)
  exact htype.before (.append (noneOpens_typeStart_decorator _ _ _) (noneOpens_typeStart_class _))

end Form

/-- The value type that a form declares, beside the controls that the classes of its fields
make.  Every field has a type, which is written as it is taken apart; it describes the
control unless the field is a structured value, and it is in its place in the value type
unless the field stands inside a structured value. -/
structure Form.DeclaresValues (stem title : String) (fields : List Field) : Prop where
  declared : Opening typeStart [className [stem] ++ "Value = " ++ (formType fields).text ++ ";"]
    (component stem title fields).code
  written : ∀ n : Node, n.StandsIn fields → n.field.typeTree.text = n.field.valueType
  made : ∀ n : Node, n.StandsIn fields →
    ∃ shape, n.field.Creates (Trail.along {} n.above) shape
  described : ∀ n : Node, n.StandsIn fields → ∀ shape,
    n.field.Creates (Trail.along {} n.above) shape →
      (n.field.typeTree.Describes shape ↔ n.field.kind ≠ .structured)
  placed : ∀ n : Node, n.StandsIn fields → ∀ t,
    (formType fields).Declares n.address n.names t ↔
      t = n.field.typeTree ∧ ∀ f ∈ n.above, f.kind ≠ .structured

/-- A form declares types for all values but those of its structured values. -/
theorem Element.declaresValues (e : Element DataType) (config : Config) (stem title : String) :
    Form.DeclaresValues stem title (e.fields config) where
  declared := Form.opening_type stem _ _
  written := fun n _ => n.field.text_typeTree
  made := fun n _ => ⟨_, n.field.creates_shape _⟩
  described := by
    intro n hn shape hshape
    rw [Field.shape_of_creates hshape,
      Field.describes_shape_iff (Element.groupsByKind (Node.occursIn hn))]
  placed := by
    intro n hn t
    rw [Node.declares_iff hn]
    refine and_congr_right fun _ => forall₂_congr fun f hf => ?_
    have hkind := (Element.groupsByKind (Node.occursIn_above hn f hf)).mp
      (Node.isSome_children?_of_above hn f hf)
    revert hkind
    cases f.kind <;> decide

namespace ValueTypesWitness

open NestedEntitiesWitness (string)
open SiblingsWitness (text)

/-- A value of two texts. -/
def span {τ : Type} (type : τ) : Property τ :=
  ⟨"span", none, false, none,
    .structured "Span" (some type) "(a)@(b)"
      [.property (text type "low"), .literal "-", .property (text type "high")]⟩

def document : Document :=
  .ofElements ⟨"Reading", none, [span (.scalar "xsd:string")]⟩ []

def reading : Element DataType := ⟨"Reading", none, [span string]⟩

/-- The place of the structured value in the form. -/
def place : Node := ⟨[0], [], composeField {} (span string)⟩

/-- A form makes a group for a structured value and declares a text. -/
theorem group_declared_as_text :
    document.resolve = .ok ⟨reading, []⟩ ∧ place.StandsIn (reading.fields {}) ∧
      place.names = ["span"] ∧ place.field.Creates {} (.group ["low", "high"]) ∧
      (formType (reading.fields {})).Declares place.address place.names (.plain "string") ∧
      ¬(TypeTree.plain "string").Describes (.group ["low", "high"]) := by
  have hplace : place.StandsIn (reading.fields {}) := .top rfl
  refine ⟨Document.resolve_of_unfold (by decide +kernel) rfl, hplace, rfl, ?_, ?_,
    TypeTree.not_describes_group⟩
  · exact place.field.creates_shape {}
  · exact (Node.declares_iff hplace).mpr ⟨rfl, nofun⟩

end ValueTypesWitness

end AspectForms
