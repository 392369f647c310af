import AspectForms.Lint
import AspectForms.Proofs.Composition
import AspectForms.Proofs.Unfolding

/-!
Names of siblings in the field forest of a model that passes lint.  Main statement: they are distinct at
every level exactly if the elements of every structured value that is shown have distinct names, since
lint looks at the property lists and at the branches of an either and not at those elements.
-/

namespace AspectForms

/-- The properties written inside the characteristic of a property. -/
def PropertyOf.nested (p : Property DataType) : List (Property DataType) :=
  match p.characteristic.unwrapped with
  | .either _ l r => [l, r]
  | .structured _ _ _ parts => partProperties parts
  | _ => []

/-- The elements of a structured value have distinct names. -/
def PropertyOf.ElementsDistinct (p : Property DataType) : Prop :=
  ∀ n t rule parts, p.characteristic.unwrapped = .structured n t rule parts →
    ((partProperties parts).map (·.name)).Nodup

/-- At every level of a forest the names of siblings are distinct. -/
def Field.SiblingsDistinct (fields : List Field) : Prop :=
  (fields.map Field.name).Nodup ∧
    ∀ f, Field.OccursIn fields f → (f.children.map Field.name).Nodup

theorem hasErrors_eq_false_iff {issues : List Issue} :
    hasErrors issues = false ↔ ∀ i ∈ issues, i.severity ≠ .error := by
  simp [hasErrors]

theorem hasErrors_append {xs ys : List Issue} :
    hasErrors (xs ++ ys) = (hasErrors xs || hasErrors ys) :=
  List.any_append

namespace Lint

theorem insideParts_eq (location : String) (ps : List (Part DataType)) :
    insideParts location ps =
      (partProperties ps).flatMap fun q =>
        property (location ++ "." ++ q.name) q := by
  induction ps with
  | nil => rfl
  | cons p ps ih =>
      rw [insideParts, ih]
      cases p with
      | literal s => rfl
      | property q => rfl

/-- The issues inside a characteristic that is no trait. -/
theorem inside_of_unwrapped (location : String) (unwrap : Bool)
    (p : Property DataType) (h : ∀ n b cs, p.characteristic ≠ .trait n b cs) :
    inside location unwrap p.characteristic =
      p.nested.flatMap fun q => property (location ++ "." ++ q.name) q := by
  rcases p with ⟨n, u, o, x, c⟩
  cases c with
  | trait m b cs => exact absurd rfl (h m b cs)
  | structured m t rule parts => exact insideParts_eq location parts
  | either m l r => simp [inside, PropertyOf.nested, Characteristic.unwrapped]
  | _ => rfl

/-- One step of lint at a property. -/
theorem property_eq (location : String) (p : Property DataType) :
    property location p =
      (ownFindings p).map (⟨location, ·⟩) ++
        p.nested.flatMap fun q => property (location ++ "." ++ q.name) q := by
  rcases p with ⟨n, u, o, x, c⟩
  rw [property]
  congr 1
  cases c with
  | trait m b cs =>
      cases b with
      | trait => rfl
      | _ => exact inside_of_unwrapped location false ⟨n, u, o, x, _⟩ nofun
  | _ => exact inside_of_unwrapped location true ⟨n, u, o, x, _⟩ nofun

/-- No error is found at a property, wherever it stands, or inside it. -/
def Passes (p : Property DataType) : Prop :=
  ∃ location, hasErrors (property location p) = false

namespace Passes

variable {p : Property DataType}

theorem finding (h : Passes p) {found : Finding} (hfound : found ∈ ownFindings p) :
    found.severity ≠ .error := by
  obtain ⟨location, hclean⟩ := h
  rw [property_eq, hasErrors_eq_false_iff] at hclean
  exact hclean ⟨location, found⟩
    (List.mem_append_left _ (List.mem_map_of_mem hfound))

theorem nested (h : Passes p) {q : Property DataType} (hq : q ∈ p.nested) :
    Passes q := by
  obtain ⟨location, hclean⟩ := h
  rw [property_eq, hasErrors_eq_false_iff] at hclean
  refine ⟨location ++ "." ++ q.name, hasErrors_eq_false_iff.mpr ?_⟩
  intro i hi
  exact hclean i
    (List.mem_append_right _ (List.mem_flatMap.mpr ⟨q, hq, hi⟩))

/-- The branches of an either have distinct names. -/
theorem branches (h : Passes p) {n : String} {l r : Property DataType}
    (heither : p.characteristic.unwrapped = .either n l r) :
    l.name ≠ r.name := by
  intro hsame
  have hfound : .duplicateBranch n l.name ∈ ownFindings p := by
    simp [ownFindings, heither, hsame]
  exact h.finding hfound rfl

end Passes

/-- A list of properties without errors has distinct names, none of which was
seen before, and no error inside. -/
theorem of_properties {owner : String} {seen : List String}
    {ps : List (Property DataType)}
    (h : hasErrors (properties owner seen ps) = false) :
    (ps.map (·.name)).Nodup ∧ (∀ p ∈ ps, p.name ∉ seen) ∧
      ∀ p ∈ ps, Passes p := by
  induction ps generalizing seen with
  | nil => simp
  | cons p ps ih =>
      simp only [properties, hasErrors_append, Bool.or_eq_false_iff] at h
      obtain ⟨⟨hown, hproperty⟩, hrest⟩ := h
      obtain ⟨hnodup, hunseen, hpasses⟩ := ih hrest
      have hnew : p.name ∉ seen := by
        intro hseen
        rw [if_pos hseen] at hown
        cases hown
      refine ⟨List.nodup_cons.mpr ⟨?_, hnodup⟩, ?_, ?_⟩
      · intro hmem
        obtain ⟨q, hq, hname⟩ := List.mem_map.mp hmem
        exact hunseen q hq (hname ▸ List.mem_cons_self)
      · intro q hq
        rcases List.mem_cons.mp hq with rfl | hq
        · exact hnew
        · exact fun hseen => hunseen q hq (List.mem_cons_of_mem _ hseen)
      · intro q hq
        rcases List.mem_cons.mp hq with rfl | hq
        · exact ⟨_, hproperty⟩
        · exact hpasses q hq

end Lint

/-- An aspect or entity of a model without errors has distinct property names
and no error inside. -/
theorem Model.element_of_lint {model : Model}
    (h : hasErrors model.lint = false) {x : Element DataType}
    (hx : x ∈ model.aspect :: model.entities) :
    (x.properties.map (·.name)).Nodup ∧ ∀ p ∈ x.properties, Lint.Passes p := by
  have hclean : hasErrors (Lint.element x) = false := by
    rw [hasErrors_eq_false_iff] at h ⊢
    intro i hi
    apply h i
    rcases List.mem_cons.mp hx with rfl | hx
    · exact List.mem_append_left _ hi
    · exact List.mem_append_right _ (List.mem_flatMap.mpr ⟨x, hx, hi⟩)
  obtain ⟨hnodup, _, hpasses⟩ := Lint.of_properties hclean
  exact ⟨hnodup, hpasses⟩

theorem Model.mem_of_select {model : Model} {name? : Option String}
    {selection : Selection} (h : model.select name? = .ok selection) :
    selection.element ∈ model.aspect :: model.entities := by
  unfold select at h
  split at h
  · obtain rfl := Except.ok.inj h
    exact List.mem_cons_self
  · split at h
    · obtain rfl := Except.ok.inj h
      exact List.mem_cons_self
    · split at h
      · rename_i e hfind
        obtain rfl := Except.ok.inj h
        exact List.mem_cons_of_mem _ (List.mem_of_find?_eq_some hfind)
      · cases h

theorem Characteristic.references_unwrapped {τ : Type} (owner : String)
    (c : Characteristic τ) : c.unwrapped.references owner = c.references owner := by
  cases c <;> rfl

namespace PropertyOf

variable {p : Property DataType}

theorem references_of_nested {q : Property DataType} (hq : q ∈ p.nested) :
    propertyReferences q ⊆ propertyReferences p := by
  rw [propertyReferences_eq p, ← Characteristic.references_unwrapped]
  unfold nested at hq
  split at hq
  · rename_i hshape
    rw [hshape, Characteristic.references]
    rcases List.mem_pair.mp hq with rfl | rfl
    · exact List.subset_append_left _ _
    · exact List.subset_append_right _ _
  · rename_i hshape
    rw [hshape, Characteristic.references, partsReferences_eq]
    intro r hr
    exact List.mem_append_left _ (List.mem_flatMap.mpr ⟨q, hq, hr⟩)
  · cases hq

/-- What is inside a property is written there or is what the entity that it
refers to shows. -/
theorem inner_cases (config : Config) (p : Property DataType) :
    p.inner config = p.nested ∨
      ∃ e, (p.name, .entity e) ∈ propertyReferences p ∧
        p.inner config = e.shown config ∧ p.ElementsDistinct := by
  rw [propertyReferences_eq, ← Characteristic.references_unwrapped]
  unfold inner nested ElementsDistinct
  cases p.characteristic.unwrapped with
  | singleEntity n t =>
      cases t with
      | scalar urn => exact .inl rfl
      | entity e => exact .inr ⟨e, List.mem_cons_self, rfl, nofun⟩
  | scalar n t unit =>
      rcases t with _ | _ | e
      · exact .inl rfl
      · exact .inl rfl
      · exact .inr ⟨e, List.mem_cons_self, rfl, nofun⟩
  | _ => exact .inl rfl

theorem names_nested_nodup_iff (h : Lint.Passes p) :
    (p.nested.map (·.name)).Nodup ↔ p.ElementsDistinct := by
  unfold nested ElementsDistinct
  cases hshape : p.characteristic.unwrapped with
  | either n l r =>
      have hbranches := h.branches hshape
      simp [hbranches]
  | structured n t rule parts =>
      constructor
      · rintro hnodup _ _ _ _ ⟨⟩
        exact hnodup
      · intro hdistinct
        exact hdistinct n t rule parts rfl
  | _ => simp

end PropertyOf

/-- The linter has been at `p`: it found no error there, and what `p` refers
to is a reference of the aspect or of an entity. -/
structure Model.Linted (model : Model) (p : Property DataType) : Prop where
  passes : Lint.Passes p
  mentions : ∀ owner e, (owner, .entity e) ∈ propertyReferences p →
    ∃ x ∈ model.aspect :: model.entities, x.Mentions e

namespace Model.Linted

variable {doc : Document} {model : Model} {config : Config}
  {e : Element DataType} {p q : Property DataType}

theorem of_mem (hlint : hasErrors model.lint = false)
    (he : e ∈ model.aspect :: model.entities) (hp : p ∈ e.shown config) :
    model.Linted p := by
  have hmem := (List.mem_filter.mp hp).1
  refine ⟨(model.element_of_lint hlint he).2 p hmem, ?_⟩
  intro owner d hd
  exact ⟨e, he, owner, List.mem_flatMap.mpr ⟨p, hmem, hd⟩⟩

theorem names_shown_nodup (hlint : hasErrors model.lint = false)
    (he : e ∈ model.aspect :: model.entities) :
    ((e.shown config).map (·.name)).Nodup :=
  (model.element_of_lint hlint he).1.sublist (List.filter_sublist.map _)

/-- An entity that a property refers to is one of the model. -/
theorem mem_entities (hp : model.Linted p) (h : doc.resolve = .ok model)
    (href : (p.name, .entity e) ∈ propertyReferences p) :
    e ∈ model.aspect :: model.entities := by
  obtain ⟨x, hx, hmention⟩ := hp.mentions _ e href
  have hregistered := Document.named?_of_mentions h hx hmention
  exact List.mem_cons_of_mem _ (mem_of_named? hregistered)

theorem inner (hp : model.Linted p) (h : doc.resolve = .ok model)
    (hlint : hasErrors model.lint = false) (hq : q ∈ p.inner config) :
    model.Linted q := by
  rcases p.inner_cases config with hinner | ⟨e, href, hinner, _⟩
  · rw [hinner] at hq
    refine ⟨hp.passes.nested hq, ?_⟩
    intro owner d hd
    exact hp.mentions owner d (PropertyOf.references_of_nested hq hd)
  · rw [hinner] at hq
    exact of_mem hlint (hp.mem_entities h href) hq

theorem names_inner_nodup_iff (hp : model.Linted p)
    (h : doc.resolve = .ok model) (hlint : hasErrors model.lint = false) :
    ((p.inner config).map (·.name)).Nodup ↔ p.ElementsDistinct := by
  rcases p.inner_cases config with hinner | ⟨e, href, hinner, hdistinct⟩
  · rw [hinner]
    exact PropertyOf.names_nested_nodup_iff hp.passes
  · rw [hinner]
    have hnodup : ((e.shown config).map (·.name)).Nodup :=
      names_shown_nodup hlint (hp.mem_entities h href)
    exact iff_of_true hnodup hdistinct

/-- Lint has been at every property that an element shows. -/
theorem of_shows (h : doc.resolve = .ok model)
    (hlint : hasErrors model.lint = false)
    (he : e ∈ model.aspect :: model.entities) (hp : e.Shows config p) :
    model.Linted p := by
  induction hp with
  | top hp => exact of_mem hlint he hp
  | inside _ hq ih => exact ih.inner h hlint hq

end Model.Linted

/-- For a model without lint errors the names of siblings are distinct at every
level of the forest of a selected element exactly if the elements of every
structured value in it have distinct names. -/
theorem Document.siblingsDistinct_iff {doc : Document} {model : Model}
    {config : Config} {selection : Selection} (h : doc.resolve = .ok model)
    (hlint : hasErrors model.lint = false)
    (hselect : model.select config.element? = .ok selection) :
    Field.SiblingsDistinct (selection.element.fields config) ↔
      ∀ p, selection.element.Shows config p → p.ElementsDistinct := by
  have he := Model.mem_of_select hselect
  have hinner (p : Property DataType) (hp : selection.element.Shows config p) :
      ((composeField config p).children.map Field.name).Nodup ↔
        p.ElementsDistinct := by
    rw [children_composeField, names_composeField]
    exact (Model.Linted.of_shows h hlint he hp).names_inner_nodup_iff h hlint
  constructor
  · rintro ⟨_, hdistinct⟩ p hp
    apply (hinner p hp).mp
    exact hdistinct _ (Element.occursIn_fields_iff.mpr ⟨p, hp, rfl⟩)
  · intro hdistinct
    constructor
    · rw [Element.fields_eq, names_composeField]
      exact Model.Linted.names_shown_nodup hlint he
    · intro f hf
      obtain ⟨p, hp, rfl⟩ := Element.occursIn_fields_iff.mp hf
      exact (hinner p hp).mpr (hdistinct p hp)

namespace SiblingsWitness

def text {τ : Type} (type : τ) (name : String) : Property τ :=
  ⟨name, none, false, none, .scalar "Text" (some type) none⟩

/-- A value of two elements, an either and an entity, over the types of texts
and of the entity. -/
def reading {τ : Type} (type point : τ) (low high : String) : Element τ :=
  ⟨"Reading", none,
    [⟨"span", none, false, none,
        .structured "Span" (some type) "(a)@(b)"
          [.property (text type low), .literal "-", .property (text type high)]⟩,
      ⟨"result", none, false, none,
        .either "Result" (text type "value") (text type "fault")⟩,
      ⟨"place", none, false, none, .singleEntity "Place" point⟩]⟩

def document (low high : String) : Document where
  aspect := reading (.scalar "xsd:string") (.entity "Point") low high
  entities := [⟨"Point", none, [text (.scalar "xsd:string") "x"]⟩]

def point : Element DataType :=
  ⟨"Point", none, [text (.scalar "http://www.w3.org/2001/XMLSchema#string") "x"]⟩

def model (low high : String) : Model :=
  ⟨reading (.scalar "http://www.w3.org/2001/XMLSchema#string") (.entity point)
    low high, [point]⟩

theorem siblingsDistinct_iff_of_reading :
    hasErrors (model "low" "high").lint = false ∧
      (Field.SiblingsDistinct ((model "low" "high").aspect.fields {}) ↔
        ∀ p, (model "low" "high").aspect.Shows {} p → p.ElementsDistinct) := by
  have hlint : hasErrors (model "low" "high").lint = false := by decide +kernel
  have hselect : (model "low" "high").select ({} : Config).element? =
      .ok (.aspect (model "low" "high").aspect) := rfl
  have hresolve : (document "low" "high").resolve = .ok (model "low" "high") :=
    Document.resolve_of_unfold (by decide +kernel) rfl
  exact ⟨hlint, Document.siblingsDistinct_iff hresolve hlint hselect⟩

/-- Lint finds no error where both elements of a structured value have one
name. -/
theorem repeated_element_passes_lint :
    (document "low" "low").resolve = .ok (model "low" "low") ∧
      hasErrors (model "low" "low").lint = false ∧
      ¬Field.SiblingsDistinct ((model "low" "low").aspect.fields {}) := by
  refine ⟨Document.resolve_of_unfold (by decide +kernel) rfl,
    by decide +kernel, ?_⟩
  rintro ⟨_, hinside⟩
  have hspan := hinside _ (.top List.mem_cons_self)
  revert hspan
  decide

end SiblingsWitness

end AspectForms
