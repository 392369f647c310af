import AspectForms.Proofs.ControlIds
import AspectForms.Proofs.ValueTypes

/-!
Fields that must have a value.  Main statement: whatever constraints a property has, the list of its
validators, the object types with its member, the label of its control and the array in its class tell
alike whether the property is optional, at every depth of a form.
-/

namespace AspectForms

open Script Validator Control

/-- A list starts with `a` and has it nowhere else, or does not have it at all. -/
inductive LeadsIf {α : Type} (a : α) : Bool → List α → Prop
  | present {rest} (h : a ∉ rest) : LeadsIf a true (a :: rest)
  | absent {as} (h : a ∉ as) : LeadsIf a false as

def PropertyOf.member (config : Config) (p : Property DataType) : String :=
  p.name ++ (if p.optional then "?" else "") ++ ": " ++ (composeField config p).valueType

/-- A place in the fields of some properties is that of a property: one of the list or, in the
field of one of the list, one that is shown inside. -/
inductive Node.BuiltFrom (config : Config) :
    List (Property DataType) → Node → Property DataType → Prop
  | top {ps i p} (hp : ps[i]? = some p) : BuiltFrom config ps ⟨[i], [], composeField config p⟩ p
  | inside {ps i p n q} (hp : ps[i]? = some p) (h : BuiltFrom config (p.inner config) n q) :
    BuiltFrom config ps ⟨i :: n.address, composeField config p :: n.above, n.field⟩ q

def Control.labelStart : String := "  <label for=\""

/-- What the line of a label goes on with. -/
def Control.labelRest (id text : String) : String := id ++ "\">" ++ text ++ "</label>"

/-- Whatever is made of the field at a place tells whether the property is optional. -/
structure Node.TellsOptional (config : Config) (n : Node) (p : Property DataType) : Prop where
  validators : LeadsIf Validator.required (!p.optional) n.field.validators
  definitions : LeadsIf requiredDefinition (!p.optional) (n.field.validators.map (·.definition))
  /-- The members of its own type, if that is an object type, tell it of the properties
  inside. -/
  members : p.kind ∈ [.complex, .either] →
    n.field.valueType = recordType ((p.inner config).map (PropertyOf.member config))
  label : n.IsLeaf → ∃ text,
    Opening labelStart [labelRest (dashedPath n.names) text] n.component.markup ∧
      text = n.field.label ++ (if p.optional then "" else " *") ∧
      (" *".toList <:+ text.toList ↔ p.optional = false)
  control : ∃ listed, n.component.controlArrays = [listed] ∧
    LeadsIf requiredDefinition (!p.optional) listed
  handedDown : ∀ listed ∈ n.component.itemArrays ++ n.component.childArrays,
    requiredDefinition ∉ listed

theorem LeadsIf.of_append {α : Type} {a : α} {required : Bool} {rest : List α} (h : a ∉ rest) :
    LeadsIf a required ((if required then [a] else []) ++ rest) := by
  cases required
  · exact .absent h
  · exact .present h

/-- A list keeps its start if nothing behind is mapped to the same. -/
theorem LeadsIf.map {α β : Type} {f : α → β} {a : α} {required : Bool} {rest : List α}
    (h : ∀ x ∈ rest, f x ≠ f a) :
    LeadsIf (f a) required (((if required then [a] else []) ++ rest).map f) := by
  have hrest : f a ∉ rest.map f := by
    intro hmem
    obtain ⟨x, hx, heq⟩ := List.mem_map.mp hmem
    exact h x hx heq
  have hfirst : (if required then [a] else []).map f = if required then [f a] else [] := by
    cases required <;> rfl
  rw [List.map_append, hfirst]
  exact .of_append hrest

/-- A call of a shared factory is not taken for the validator that demands a value, whatever
the arguments are. -/
theorem Validator.Calls.definition_ne {v : Validator} {factories : List String}
    (h : v.Calls factories) : v.definition ≠ requiredDefinition := by
  obtain ⟨factory, _, arguments, hdefinition, _⟩ := h
  intro heq
  have hhead : (call factory arguments).toList.head? = some 'F' := by
    rw [toList_call]
    rfl
  rw [← hdefinition, heq] at hhead
  exact absurd hhead (by decide)

/-- The validator that demands a value is found by its definition. -/
theorem Validator.any_isRequired (required : Bool) {vs : List Validator}
    (h : ∀ v ∈ vs, v.definition ≠ requiredDefinition) :
    ((if required then [Validator.required] else []) ++ vs).any (·.isRequired) = required := by
  have hrest : vs.any (·.isRequired) = false := by
    rw [List.any_eq_false]
    intro v hv
    simpa [isRequired] using h v hv
  rw [List.any_append, hrest, Bool.or_false]
  cases required <;> rfl

namespace PropertyOf

variable (p : Property DataType)

/-- Nothing that follows from the characteristic or from a constraint demands a value. -/
theorem definition_ne_of_mem {v : Validator}
    (hv : v ∈ p.typeValidators ++ p.constraintValidators) :
    v.definition ≠ requiredDefinition := by
  rcases List.mem_append.mp hv with hv | hv
  · exact (calls_of_mem_typeValidators hv).1.definition_ne
  · obtain ⟨c, _, hv⟩ := List.mem_flatMap.mp hv
    exact (Constraint.calls_of_mem hv).1.definition_ne

theorem validators_eq :
    p.validators = (if !p.optional then [Validator.required] else []) ++
      (p.typeValidators ++ p.constraintValidators) := by
  rw [validators, baseValidators, List.append_assoc]
  cases p.optional <;> rfl

theorem direct_eq : p.validators.filter (·.direct) =
    (if !p.optional then [Validator.required] else []) ++
      (p.typeValidators ++ p.constraintValidators).filter (·.direct) := by
  rw [validators_eq, List.filter_append]
  cases p.optional <;> rfl

theorem lifted_eq : (p.validators.filter fun v => !v.direct) =
    (p.typeValidators ++ p.constraintValidators).filter fun v => !v.direct := by
  rw [validators_eq, List.filter_append]
  cases p.optional <;> rfl

end PropertyOf

section Composed

variable (config : Config)

theorem isRequired_composeField (p : Property DataType) :
    (composeField config p).isRequired = !p.optional := by
  rw [Field.isRequired, validators_composeField, p.validators_eq,
    any_isRequired _ fun _ => p.definition_ne_of_mem]

theorem direct_isRequired_composeField (p : Property DataType) :
    (composeField config p).direct.any (·.isRequired) = !p.optional := by
  rw [Field.direct, validators_composeField, p.direct_eq, any_isRequired]
  exact fun v hv => p.definition_ne_of_mem (List.mem_of_mem_filter hv)

theorem memberTypes_composed (ps : List (Property DataType)) :
    memberTypes (ps.map (composeField config)) = ps.map (PropertyOf.member config) := by
  induction ps with
  | nil => rfl
  | cons p ps ih =>
      rw [List.map_cons, memberTypes, isRequired_composeField, name_composeField, ih,
        List.map_cons, PropertyOf.member]
      cases p.optional <;> rfl

theorem objectType_composed (ps : List (Property DataType)) :
    objectType (ps.map (composeField config)) =
      recordType (ps.map (PropertyOf.member config)) := by
  rw [objectType, memberTypes_composed]

end Composed

/-- A label holds no sign that comes before the digits, except for blanks. -/
theorem Text.not_mem_titleCase {c : Char} (h : c.toNat ≤ 0x2F) (hblank : c ≠ ' ') (s : String) :
    c ∉ (titleCase s).toList := by
  intro hmem
  rw [titleCase, String.toList_ofList] at hmem
  rcases mem_joinWith hmem with heq | ⟨capital, hcapital, hc⟩
  · exact hblank heq
  · obtain ⟨w, hw, rfl⟩ := List.mem_map.mp hcapital
    rcases mem_capitalWord hc with rfl | ⟨d, hd, hcase⟩
    · exact absurd h (by decide)
    · have hlt := lt_of_mem_case (isAlphanumeric_of_mem_words hw hd) hcase
      exact Nat.not_le_of_lt hlt h

/-- A label does not end in a star of its own: behind a unit there is a bracket. -/
theorem Field.not_star_suffix_label (f : Field) : ¬" *".toList <:+ f.label.toList := by
  intro hsuffix
  have hlast : f.label.toList.getLast? = some '*' := by
    obtain ⟨front, hfront⟩ := hsuffix
    rw [← hfront, List.getLast?_append_of_ne_nil _ (by decide)]
    rfl
  unfold label at hlast
  split at hlast
  -- What a unit is called does not matter, since it stands between brackets.
  · rw [String.toList_append, List.getLast?_append_of_ne_nil _ (by decide)] at hlast
    cases hlast
  · exact Text.not_mem_titleCase (by decide) (by decide) _ (List.mem_of_getLast? hlast)

theorem Field.star_suffix_iff (f : Field) (optional : Bool) :
    " *".toList <:+ (f.label ++ (if optional then "" else " *")).toList ↔ optional = false := by
  cases optional with
  | false =>
      rw [String.toList_append]
      exact iff_of_true (List.suffix_append _ _) rfl
  | true =>
      refine iff_of_false ?_ nofun
      simpa using f.not_star_suffix_label

namespace Control

theorem noneOpens_controlMarkup (id : String) (f : Field) :
    NoneOpens labelStart (controlMarkup id f) := by
  unfold controlMarkup
  split
  · exact .cons (Differs.append (.append (.of_lists rfl) _) _).misses .nil
  · exact .cons (Differs.append (.append (.append (.append (.of_lists rfl) _) _) _) _).misses .nil
  · refine .cons (Differs.append (.append (.of_lists rfl) _) _).misses ?_
    exact .cons (.of_lists rfl) (.cons (.of_lists rfl) (.cons (.of_lists rfl)
      (.cons (.of_lists rfl) (.cons (.of_lists rfl) .nil))))
  · refine .cons (Differs.append (.append (.of_lists rfl) _) _).misses ?_
    refine .cons (.of_lists rfl) (.cons (.of_lists rfl) (.cons ?_ ?_))
    · exact (Differs.append (.append (.of_lists rfl) _) _).misses
    · exact .cons (.of_lists rfl) (.cons (.of_lists rfl) (.cons (.of_lists rfl)
        (.cons (.of_lists rfl) (.cons (.of_lists rfl) .nil))))
  · refine .cons (Differs.misses ?_) .nil
    exact .append (.append (.append (.append (.append (.append (.of_lists rfl) _) _) _) _) _) _

theorem noneOpens_hintMarkup (f : Field) : NoneOpens labelStart (hintMarkup f) := by
  unfold hintMarkup
  split
  · exact .cons (Differs.append (.append (.of_lists rfl) _) _).misses .nil
  · exact .nil

theorem noneOpens_errorMarkup (message : String) : NoneOpens labelStart (errorMarkup message) := by
  refine .cons (.of_lists rfl) (.cons ?_ (.cons (.of_lists rfl) .nil))
  exact (Differs.append (.append (.of_lists rfl) _) _).misses

/-- The markup of a leaf has one label, with a star if a value is demanded. -/
theorem opening_label (t : Trail) (f : Field) :
    Opening labelStart
      [labelRest (dashedPath (t.down f).names)
        (f.label ++ (if f.direct.any (·.isRequired) then " *" else ""))]
      (leafMarkup t f) := by
  have hend : NoneOpens labelStart ["</div>"] := .cons (.of_lists rfl) .nil
  simp only [leafMarkup, List.append_assoc, List.cons_append, List.nil_append]
  refine .next (.of_lists rfl) (.here ?_ (NoneOpens.opening ?_))
  · simp only [labelRest, labelStart, String.append_assoc]
  · exact (noneOpens_controlMarkup _ f).append ((noneOpens_hintMarkup f).append
      ((noneOpens_errorMarkup _).append hend))

end Control

namespace Node

variable {config : Config} {ps : List (Property DataType)} {n : Node} {p : Property DataType}

theorem BuiltFrom.field_eq (h : n.BuiltFrom config ps p) : n.field = composeField config p := by
  induction h with
  | top hp => rfl
  | inside hp _ ih => exact ih

theorem BuiltFrom.standsIn (h : n.BuiltFrom config ps p) :
    n.StandsIn (ps.map (composeField config)) := by
  induction h with
  | top hp =>
      refine .top ?_
      rw [List.getElem?_map, hp, Option.map_some]
  | @inside ps i p n q hp _ ih =>
      refine .inside ?_ ?_
      · rw [List.getElem?_map, hp, Option.map_some]
      · rw [children_composeField]
        exact ih

theorem exists_builtFrom (h : n.StandsIn (ps.map (composeField config))) :
    ∃ p, n.BuiltFrom config ps p := by
  generalize hfields : ps.map (composeField config) = fields at h
  induction h generalizing ps with
  | @top fields i f hf =>
      rw [← hfields, List.getElem?_map, Option.map_eq_some_iff] at hf
      obtain ⟨p, hp, rfl⟩ := hf
      exact ⟨p, .top hp⟩
  | @inside fields i f n hf _ ih =>
      rw [← hfields, List.getElem?_map, Option.map_eq_some_iff] at hf
      obtain ⟨p, hp, rfl⟩ := hf
      obtain ⟨q, hq⟩ := ih (children_composeField config p).symm
      exact ⟨q, .inside hp hq⟩

/-- The label beside a leaf has a star behind its text if a value is demanded. -/
theorem exists_label (hfield : n.field = composeField config p) (hleaf : n.IsLeaf) :
    ∃ text, Opening labelStart [labelRest (dashedPath n.names) text] n.component.markup ∧
      text = n.field.label ++ (if p.optional then "" else " *") ∧
      (" *".toList <:+ text.toList ↔ p.optional = false) := by
  have hmarkup : n.component.markup = leafMarkup (n.placed {}).trail n.field :=
    markup_of_leaf hleaf
  have hdirect : n.field.direct.any (·.isRequired) = !p.optional := by
    rw [hfield, direct_isRequired_composeField]
  have hstar : (if !p.optional then " *" else "") = if p.optional then "" else " *" := by
    cases p.optional <;> rfl
  have hopening := opening_label (n.placed {}).trail n.field
  rw [n.names_placed, hdirect, hstar, ← hmarkup] at hopening
  exact ⟨_, hopening, rfl, n.field.star_suffix_iff _⟩

theorem component_eq_of_field (hfield : n.field = composeField config p) :
    n.component = (composeField config p).component (Trail.along {} n.above) := by
  rw [← hfield]
  rfl

/-- What a place tells follows from the property alone, wherever it is shown. -/
theorem tellsOptional_of_field (hfield : n.field = composeField config p) :
    n.TellsOptional config p where
  validators := by
    rw [hfield, validators_composeField, p.validators_eq]
    exact .of_append fun hmem => p.definition_ne_of_mem hmem rfl
  definitions := by
    rw [hfield, validators_composeField, p.validators_eq]
    exact LeadsIf.map (f := Validator.definition) (a := Validator.required)
      fun _ => p.definition_ne_of_mem
  members := by
    intro hkind
    rw [hfield, Field.valueType_eq_objectType (by rwa [kind_composeField]),
      children_composeField, objectType_composed]
  label := exists_label hfield
  control := by
    refine ⟨_, by rw [component_eq_of_field hfield, p.controlArrays_composed], ?_⟩
    rw [Field.direct, validators_composeField, p.direct_eq]
    exact LeadsIf.map (f := Validator.definition) (a := Validator.required)
      fun _ hv => p.definition_ne_of_mem (List.mem_of_mem_filter hv)
  handedDown := by
    intro listed hlisted
    rw [component_eq_of_field hfield, p.itemArrays_composed, p.childArrays_composed,
      List.mem_append] at hlisted
    -- A class has at most one array of either sort, and both list what is handed down.
    have heq : listed = (composeField config p).lifted.map (·.definition) := by
      rcases hlisted with hlisted | hlisted
      all_goals
        split at hlisted
        · exact List.mem_singleton.mp hlisted
        · cases hlisted
    rw [heq, Field.lifted, validators_composeField, p.lifted_eq, List.mem_map]
    rintro ⟨v, hv, hsame⟩
    exact p.definition_ne_of_mem (List.mem_of_mem_filter hv) hsame

end Node

namespace RequirednessWitness

open FreshRunWitness (text)
open ControlIdsWitness (string)

/-- A text that may be missing, with a constraint that is called and looks like the demand for a
value. -/
def code : Property DataType :=
  ⟨"code", none, true, none,
    .trait "Code" (.scalar "Text" (some string) none)
      [.pattern (some "required") "Validators.required"]⟩

/-- One of two texts, of which the other one must have a value. -/
def choice : Property DataType :=
  ⟨"choice", none, false, none, .either "Choice" code (text string "title")⟩

def entry : Element DataType := ⟨"Entry", none, [choice]⟩

/-- The place of the first branch. -/
def place : Node := ⟨[0, 0], [composeField {} choice], composeField {} code⟩

end RequirednessWitness

end AspectForms
