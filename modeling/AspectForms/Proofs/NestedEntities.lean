import AspectForms.Proofs.Coverage

/-!
An entity that is selected beside the same entity where a property refers to it.  Main statement: wherever
in a model a property has a complex field, the fields inside it are those of the forest of the entity
that goes by the name of its data type.
-/

namespace AspectForms

/-- A property is written in a characteristic with no other property around it,
be it in the base of a trait or in the element of a collection. -/
inductive Characteristic.Holds {τ : Type} (q : Property τ) : Characteristic τ → Prop
  | left {n r} : Holds q (.either n q r)
  | right {n l} : Holds q (.either n l q)
  | part {n t rule parts} (hq : q ∈ partProperties parts) :
    Holds q (.structured n t rule parts)
  | base {n b cs} (h : Holds q b) : Holds q (.trait n b cs)
  | element {n k t c} (h : Holds q c) : Holds q (.collection n k t (some c))

/-- A property stands somewhere below an element: in its list, in the characteristic
of a property below it, or in the list of an entity that such a property refers to. -/
inductive Element.Contains (x : Element DataType) : Property DataType → Prop
  | own {p} (hp : p ∈ x.properties) : Contains x p
  | written {p q} (hp : Contains x p) (hq : p.characteristic.Holds q) : Contains x q
  | entity {p q d} (hp : Contains x p) (hd : (p.name, .entity d) ∈ propertyReferences p)
    (hq : q ∈ d.properties) : Contains x q

theorem Characteristic.Holds.references_subset {τ : Type} {q : Property τ}
    {c : Characteristic τ} (h : c.Holds q) (owner : String) :
    propertyReferences q ⊆ c.references owner := by
  induction h with
  | left => exact List.subset_append_left _ _
  | right => exact List.subset_append_right _ _
  | part hq =>
      rw [references, partsReferences_eq]
      intro r hr
      exact List.mem_append_left _ (List.mem_flatMap.mpr ⟨q, hq, hr⟩)
  | base _ ih => exact ih
  | element _ ih => exact List.Subset.trans ih (List.subset_append_left _ _)

theorem PropertyOf.dataType?_of_entity? {p : Property DataType} {d : Element DataType}
    (h : p.entity? = some d) : p.dataType? = some (.entity d) := by
  rcases unwrapped_of_entity? h with ⟨n, hshape⟩ | ⟨n, unit, hshape⟩
  all_goals rw [dataType?, hshape]; rfl

namespace Document

variable {doc : Document} {model : Model} {x d : Element DataType}
  {p : Property DataType}

theorem mem_of_reference (h : doc.resolve = .ok model)
    (hx : x ∈ model.aspect :: model.entities) {owner : String}
    (hd : (owner, .entity d) ∈ x.references) : d ∈ model.entities :=
  mem_of_named? (named?_of_mentions h hx ⟨owner, hd⟩)

/-- Whatever a property anywhere in a model refers to is a reference of the
aspect or of one of the entities. -/
theorem exists_references_of_contains (h : doc.resolve = .ok model)
    (hx : x ∈ model.aspect :: model.entities) (hp : x.Contains p) :
    ∃ y ∈ model.aspect :: model.entities, propertyReferences p ⊆ y.references := by
  have hlist {y : Element DataType} {q : Property DataType} (hq : q ∈ y.properties) :
      propertyReferences q ⊆ y.references := by
    intro r hr
    exact List.mem_flatMap.mpr ⟨q, hq, hr⟩
  -- A property in a characteristic keeps to the references around it; an entity starts anew.
  induction hp with
  | own hp => exact ⟨x, hx, hlist hp⟩
  | @written p q _ hq ih =>
      obtain ⟨y, hy, hsub⟩ := ih
      rw [propertyReferences_eq p] at hsub
      exact ⟨y, hy, List.Subset.trans (hq.references_subset p.name) hsub⟩
  | entity _ hd hq ih =>
      obtain ⟨y, hy, hsub⟩ := ih
      have hentity := mem_of_reference h hy (hsub hd)
      exact ⟨_, List.mem_cons_of_mem _ hentity, hlist hq⟩

/-- The entity that a complex field opens into is the one of its name in the
model. -/
theorem mem_of_contains (h : doc.resolve = .ok model)
    (hx : x ∈ model.aspect :: model.entities) (hp : x.Contains p)
    (hd : p.entity? = some d) : d ∈ model.entities := by
  obtain ⟨y, hy, hsub⟩ := exists_references_of_contains h hx hp
  exact mem_of_reference h hy (hsub (PropertyOf.entity?_mem_references hd))

theorem eq_of_name (h : doc.resolve = .ok model) {e : Element DataType}
    (he : e ∈ model.entities) (hd : d ∈ model.entities) (hname : e.name = d.name) :
    e = d := by
  have hnodup : (model.entities.map Element.name).Nodup :=
    names_of_resolve h ▸ doc.names_nodup
  exact List.inj_on_of_nodup_map hnodup he hd hname

/-- Wherever in a model a property has a complex field, its data type is an
entity, and the fields inside are those of the entity of that name when it is
selected, whatever the configuration drops. -/
theorem children_eq_fields (h : doc.resolve = .ok model)
    (hx : x ∈ model.aspect :: model.entities) (hp : x.Contains p)
    (hkind : p.kind = .complex) :
    ∃ d, p.dataType? = some (.entity d) ∧ d ∈ model.entities ∧
      ∀ e ∈ model.entities, e.name = d.name → ∀ config : Config,
        (composeField config p).children? =
          some ((Selection.entity e).element.fields config) := by
  obtain ⟨d, hd⟩ := PropertyOf.kind_eq_complex_iff.mp hkind
  have hmem := mem_of_contains h hx hp hd
  refine ⟨d, PropertyOf.dataType?_of_entity? hd, hmem, ?_⟩
  intro e he hname config
  obtain rfl := eq_of_name h he hmem hname
  calc (composeField config p).children?
      = some ((p.inner config).map (composeField config)) := by
        rw [composeField_eq, PropertyOf.children?_toField, hkind]
        rfl
    _ = some ((e.shown config).map (composeField config)) := by
        rw [PropertyOf.inner_of_entity? config hd]
    _ = some (e.fields config) := by rw [Element.fields_eq]

end Document

namespace NestedEntitiesWitness

open SiblingsWitness (text)

/-- A list of pairs with a point in one branch. -/
def journey {τ : Type} (type stop : τ) : Element τ :=
  ⟨"Journey", none,
    [⟨"legs", none, false, none,
        .collection "Legs" .list none
          (some (.either "Leg" (text type "note")
            ⟨"stop", none, true, none, .trait "Stop" (.singleEntity "Stop" stop) []⟩))⟩]⟩

/-- A stop holds a point. -/
def stop {τ : Type} (point : τ) : Element τ :=
  ⟨"Stop", none, [⟨"place", none, false, none, .scalar "Place" (some point) none⟩]⟩

def point {τ : Type} (type : τ) : Element τ :=
  ⟨"Point", none, [text type "x", text type "y"]⟩

def document : Document where
  aspect := journey (.scalar "xsd:string") (.entity "Stop")
  entities := [point (.scalar "xsd:string"), stop (.entity "Point")]
  ascending := by decide +kernel

def string : DataType := .scalar "http://www.w3.org/2001/XMLSchema#string"

def model : Model :=
  ⟨journey string (.entity (stop (.entity (point string)))),
    [point string, stop (.entity (point string))]⟩

/-- The property that refers to the point. -/
def place : Property DataType :=
  ⟨"place", none, false, none, .scalar "Place" (some (.entity (point string))) none⟩

def config : Config where
  exclusions := [⟨"place", "y"⟩]

theorem children_eq_fields_of_place :
    document.resolve = .ok model ∧ model.aspect.Contains place ∧ place.kind = .complex ∧
      ((point string).fields config).map Field.name = ["x"] ∧
      ∃ d, place.dataType? = some (.entity d) ∧ d ∈ model.entities ∧
        ∀ e ∈ model.entities, e.name = d.name → ∀ config : Config,
          (composeField config place).children? =
            some ((Selection.entity e).element.fields config) := by
  have hresolve : document.resolve = .ok model :=
    Document.resolve_of_unfold (by decide +kernel) rfl
  have hstop : model.aspect.Contains _ :=
    .written (.own List.mem_cons_self) (.element .right)
  have hplace : model.aspect.Contains place :=
    .entity hstop (d := stop (.entity (point string))) List.mem_cons_self List.mem_cons_self
  exact ⟨hresolve, hplace, rfl, by decide +kernel,
    Document.children_eq_fields hresolve List.mem_cons_self hplace rfl⟩

end NestedEntitiesWitness

end AspectForms
