import AspectForms.Field.Compose

/-!
The field forest of an element beside the properties that it shows.  Main statement: what stands in the
forest, at whatever depth, is the field of a shown property, and the fields inside it are those of the
properties inside that property.
-/

namespace AspectForms

/-- The properties of an element that the configuration does not drop. -/
def Element.shown (e : Element DataType) (config : Config) :
    List (Property DataType) :=
  e.properties.filter fun p => !config.excludes p

namespace PropertyOf

variable (config : Config) (p : Property DataType) (children : List Field)

/-- What the fields of all kinds have in common. -/
theorem toField_base :
    (p.toField children).name = p.name ∧
      (p.toField children).dashed = Text.kebabCase p.name ∧
      (p.toField children).kind = p.kind ∧
      (p.toField children).validators = p.validators ∧
      (p.toField children).children? =
        if p.kind.hasChildren then some children else none := by
  unfold toField
  generalize (if p.kind.hasChildren then some children else none) = inside
  cases p.kind with
  | enumeration => cases p.characteristic.unwrapped <;> simp
  | structured => cases p.characteristic.unwrapped <;> simp
  | _ => simp

@[simp] theorem name_toField : (p.toField children).name = p.name :=
  (toField_base p children).1

@[simp] theorem dashed_toField :
    (p.toField children).dashed = Text.kebabCase p.name :=
  (toField_base p children).2.1

@[simp] theorem kind_toField : (p.toField children).kind = p.kind :=
  (toField_base p children).2.2.1

@[simp] theorem validators_toField :
    (p.toField children).validators = p.validators :=
  (toField_base p children).2.2.2.1

theorem children?_toField :
    (p.toField children).children? =
      if p.kind.hasChildren then some children else none :=
  (toField_base p children).2.2.2.2

theorem inner_eq_nil (h : p.kind.hasChildren = false) :
    p.inner config = [] := by
  unfold inner
  unfold kind at h
  split
  case h_5 => rfl
  all_goals
    rename_i hshape
    rw [hshape] at h
    cases h

theorem children_toField (h : children = [] ∨ p.kind.hasChildren = true) :
    (p.toField children).children = children := by
  rw [Field.children, children?_toField]
  rcases h with rfl | h
  · split <;> rfl
  · rw [if_pos h]
    rfl

end PropertyOf

section Compose

variable (config : Config)

theorem composeFields_eq (ps : List (Property DataType)) :
    composeFields config ps =
      (ps.filter fun p => !config.excludes p).map (composeField config) := by
  induction ps with
  | nil => rfl
  | cons p ps ih =>
      rw [composeFields, ih, List.filter_cons]
      by_cases hdrop : config.excludes p = true
      · simp [hdrop]
      · simp [hdrop]

theorem partFields_eq (ps : List (Part DataType)) :
    partFields config ps = (partProperties ps).map (composeField config) := by
  induction ps with
  | nil => rfl
  | cons p ps ih =>
      cases p with
      | literal s => exact ih
      | property p => exact congrArg (composeField config p :: ·) ih

/-- The top of a forest. -/
theorem Element.fields_eq (e : Element DataType) :
    e.fields config = (e.shown config).map (composeField config) :=
  composeFields_eq config e.properties

theorem typeFields_entity (e : Element DataType) :
    typeFields config (.entity e) =
      (e.shown config).map (composeField config) := by
  cases e
  exact composeFields_eq config _

/-- The fields inside a characteristic that is no trait. -/
theorem fieldsInside_of_unwrapped (unwrap : Bool) (p : Property DataType)
    (h : ∀ n b cs, p.characteristic ≠ .trait n b cs) :
    fieldsInside config unwrap p.characteristic =
      (p.inner config).map (composeField config) := by
  rcases p with ⟨n, u, o, x, c⟩
  cases c with
  | trait m b cs => exact absurd rfl (h m b cs)
  | structured m t rule parts => exact partFields_eq config parts
  | singleEntity m t =>
      cases t with
      | scalar urn => rfl
      | entity e => exact typeFields_entity config e
  | scalar m t unit =>
      rcases t with _ | _ | e
      · rfl
      · rfl
      · exact typeFields_entity config e
  | _ => rfl

/-- The fields inside a characteristic are those of the properties inside. -/
theorem fieldsInside_eq (p : Property DataType) :
    fieldsInside config true p.characteristic =
      (p.inner config).map (composeField config) := by
  rcases p with ⟨n, u, o, x, c⟩
  cases c with
  | trait m b cs =>
      cases b with
      | trait => rfl
      | _ =>
          exact fieldsInside_of_unwrapped config false ⟨n, u, o, x, _⟩ nofun
  | _ => exact fieldsInside_of_unwrapped config true ⟨n, u, o, x, _⟩ nofun

/-- One step of composition. -/
theorem composeField_eq (p : Property DataType) :
    composeField config p =
      p.toField ((p.inner config).map (composeField config)) := by
  rw [← fieldsInside_eq]
  cases p
  rfl

/-- The fields inside the field of a property. -/
theorem children_composeField (p : Property DataType) :
    (composeField config p).children =
      (p.inner config).map (composeField config) := by
  rw [composeField_eq]
  apply PropertyOf.children_toField
  cases hkind : p.kind.hasChildren with
  | false => exact .inl (by rw [PropertyOf.inner_eq_nil config p hkind]; rfl)
  | true => exact .inr rfl

@[simp] theorem name_composeField (p : Property DataType) :
    (composeField config p).name = p.name := by
  rw [composeField_eq, PropertyOf.name_toField]

@[simp] theorem kind_composeField (p : Property DataType) :
    (composeField config p).kind = p.kind := by
  rw [composeField_eq, PropertyOf.kind_toField]

@[simp] theorem validators_composeField (p : Property DataType) :
    (composeField config p).validators = p.validators := by
  rw [composeField_eq, PropertyOf.validators_toField]

@[simp] theorem names_composeField (ps : List (Property DataType)) :
    (ps.map (composeField config)).map Field.name = ps.map (·.name) := by
  simp

end Compose

/-- A field stands in a forest, at the top or inside another field. -/
inductive Field.OccursIn (fields : List Field) : Field → Prop
  | top {f : Field} (hf : f ∈ fields) : OccursIn fields f
  | inside {f g : Field} (hf : OccursIn fields f) (hg : g ∈ f.children) :
    OccursIn fields g

/-- A property is shown in the forest of an element, at the top or inside
another property. -/
inductive Element.Shows (config : Config) (e : Element DataType) :
    Property DataType → Prop
  | top {p : Property DataType} (hp : p ∈ e.shown config) : Shows config e p
  | inside {p q : Property DataType} (hp : Shows config e p)
    (hq : q ∈ p.inner config) : Shows config e q

/-- The fields that stand in the forest of an element are those of the
properties that it shows. -/
theorem Element.occursIn_fields_iff {config : Config} {e : Element DataType}
    {f : Field} :
    Field.OccursIn (e.fields config) f ↔
      ∃ p, e.Shows config p ∧ composeField config p = f := by
  constructor
  · intro hf
    induction hf with
    | top hf =>
        rw [Element.fields_eq] at hf
        obtain ⟨p, hp, rfl⟩ := List.mem_map.mp hf
        exact ⟨p, .top hp, rfl⟩
    | inside _ hg ih =>
        obtain ⟨p, hp, rfl⟩ := ih
        rw [children_composeField] at hg
        obtain ⟨q, hq, rfl⟩ := List.mem_map.mp hg
        exact ⟨q, .inside hp hq, rfl⟩
  · rintro ⟨p, hp, rfl⟩
    induction hp with
    | top hp =>
        apply Field.OccursIn.top
        rw [Element.fields_eq]
        exact List.mem_map_of_mem hp
    | inside _ hq ih =>
        apply ih.inside
        rw [children_composeField]
        exact List.mem_map_of_mem hq

end AspectForms
