import AspectForms.Proofs.FieldRecords

/-!
Lint takes one container at a time.  Main statement: the issues of a model are those of the aspect and then
of each entity, and the issues of a container follow from its name and its property list as they are
written, whatever the entities hold that it refers to.
-/

namespace AspectForms

section Map

variable {τ υ : Type} (f : τ → υ)

/-- A characteristic with all its types turned by `f`. -/
def Characteristic.mapTypes (owner : String) (c : Characteristic τ) : Characteristic υ :=
  (c.traverse (m := Id) (fun _ => f) owner).run

def PropertyOf.mapTypes (p : Property τ) : Property υ :=
  { p with characteristic := p.characteristic.mapTypes f p.name }

def PartOf.mapTypes : Part τ → Part υ
  | .literal s => .literal s
  | .property p => .property (p.mapTypes f)

theorem run_traverseProperty (p : Property τ) :
    (traverseProperty (m := Id) (fun _ => f) p).run = p.mapTypes f := by
  cases p
  rfl

theorem run_traverseParts (ps : List (Part τ)) :
    (traverseParts (m := Id) (fun _ => f) ps).run = ps.map (PartOf.mapTypes f) := by
  induction ps with
  | nil => rfl
  | cons p ps ih =>
      have hpart : (traversePart (m := Id) (fun _ => f) p).run = p.mapTypes f := by
        cases p with
        | literal s => rfl
        | property p => exact congrArg PartOf.property (run_traverseProperty f p)
      exact congrArg₂ List.cons hpart ih

theorem partProperties_mapTypes (ps : List (Part τ)) :
    partProperties (ps.map (PartOf.mapTypes f)) =
      (partProperties ps).map (PropertyOf.mapTypes f) := by
  induction ps with
  | nil => rfl
  | cons p ps ih =>
      cases p with
      | literal s => exact ih
      | property p => exact congrArg (p.mapTypes f :: ·) ih

namespace Characteristic

variable {f} {owner : String}

@[simp] theorem mapTypes_scalar {n : String} {t : Option τ} {u : Option UnitOfMeasure} :
    (scalar n t u).mapTypes f owner = scalar n (t.map f) u := by
  cases t <;> rfl

@[simp] theorem mapTypes_enumeration {n : String} {t : Option τ} {vs : List Value} :
    (enumeration n t vs).mapTypes f owner = enumeration n (t.map f) vs := by
  cases t <;> rfl

@[simp] theorem mapTypes_collection {n : String} {k : CollectionKind} {t : Option τ}
    {e : Option (Characteristic τ)} :
    (collection n k t e).mapTypes f owner =
      collection n k (t.map f) (e.map (·.mapTypes f owner)) := by
  cases t <;> cases e <;> rfl

@[simp] theorem mapTypes_either {n : String} {l r : Property τ} :
    (either n l r).mapTypes f owner = either n (l.mapTypes f) (r.mapTypes f) := by
  cases l
  cases r
  rfl

@[simp] theorem mapTypes_structured {n rule : String} {t : Option τ} {ps : List (Part τ)} :
    (structured n t rule ps).mapTypes f owner =
      structured n (t.map f) rule (ps.map (PartOf.mapTypes f)) := by
  rw [← run_traverseParts]
  cases t <;> rfl

@[simp] theorem mapTypes_singleEntity {n : String} {t : τ} :
    (singleEntity n t).mapTypes f owner = singleEntity n (f t) :=
  rfl

@[simp] theorem mapTypes_trait {n : String} {b : Characteristic τ} {cs : List Constraint} :
    (trait n b cs).mapTypes f owner = trait n (b.mapTypes f owner) cs :=
  rfl

theorem dataType?_mapTypes (c : Characteristic τ) :
    (c.mapTypes f owner).dataType? = c.dataType?.map f := by
  induction c using Characteristic.induction with
  | trait n b cs ih => exact ih
  | _ => simp [dataType?]

theorem unwrapped_mapTypes (c : Characteristic τ) :
    (c.mapTypes f owner).unwrapped = c.unwrapped.mapTypes f owner := by
  cases c <;> simp [unwrapped]

theorem name_mapTypes (c : Characteristic τ) : (c.mapTypes f owner).name = c.name := by
  cases c <;> simp [name]

theorem constraints_mapTypes (c : Characteristic τ) :
    (c.mapTypes f owner).constraints = c.constraints := by
  cases c <;> simp [constraints]

end Characteristic

end Map

/-- A type as it is seen from the property that has it: of an entity only the name. -/
def DataType.hollow : DataType → DataType
  | .scalar urn => .scalar urn
  | .entity e => .entity ⟨e.name, none, []⟩

/-- A written type as it is seen from the property that has it. -/
def TypeRef.hollow : TypeRef → DataType
  | .scalar urn => .scalar (expandUrn urn)
  | .entity name => .entity ⟨name, none, []⟩

namespace DataType

@[simp] theorem short_hollow (t : DataType) : t.hollow.short = t.short := by
  cases t <;> rfl

@[simp] theorem isEntity_hollow (t : DataType) : t.hollow.isEntity = t.isEntity := by
  cases t <;> rfl

end DataType

/-- A written type and what it is resolved to look the same. -/
theorem TypeRef.hollow_of_fill {registry : Registry} {r : TypeRef} {t : DataType}
    (h : r.fill (named? registry) = some t) : t.hollow = r.hollow := by
  cases r with
  | scalar urn =>
      obtain rfl := Option.some.inj h
      rfl
  | entity name =>
      obtain ⟨e, he, rfl⟩ := Option.map_eq_some_iff.mp h
      rw [DataType.hollow, name_of_named? he]
      rfl

section Hollow

open DataType (hollow)

variable {owner : String}

/-- No kind of field looks inside an entity. -/
theorem FieldKind.accepts_hollow (k : FieldKind) (c : Characteristic DataType) :
    k.accepts (c.mapTypes hollow owner) = k.accepts c := by
  by_cases htyped : k ∈ typed
  · rw [Bool.eq_iff_iff, accepts_iff_of_typed htyped, accepts_iff_of_typed htyped,
      Characteristic.dataType?_mapTypes]
    cases c.dataType? <;> simp
  · cases c with
    | scalar n t u => cases t <;> cases k <;> simp_all [accepts, typed]
    | _ => cases k <;> simp_all [accepts, typed]

theorem FieldKind.select_hollow (c : Characteristic DataType) :
    select (c.mapTypes hollow owner) = select c := by
  simp only [select, accepts_hollow]

theorem PropertyOf.kind_hollow (p : Property DataType) : (p.mapTypes hollow).kind = p.kind := by
  rw [kind, mapTypes, Characteristic.unwrapped_mapTypes, FieldKind.select_hollow, kind]

namespace Lint

/-- Nothing that lint looks for at a property itself lies in an entity. -/
theorem ownFindings_hollow (p : Property DataType) :
    ownFindings (p.mapTypes hollow) = ownFindings p := by
  have hunwrapped : (p.mapTypes hollow).characteristic.unwrapped =
      p.characteristic.unwrapped.mapTypes hollow p.name :=
    Characteristic.unwrapped_mapTypes _
  have htype : (p.mapTypes hollow).characteristic.unwrapped.dataType?.map DataType.short =
      p.characteristic.unwrapped.dataType?.map DataType.short := by
    rw [hunwrapped, Characteristic.dataType?_mapTypes, Option.map_map]
    congr 1
    exact funext DataType.short_hollow
  unfold ownFindings
  refine congrArg₂ (· ++ ·) (congrArg₂ (· ++ ·) (congrArg₂ (· ++ ·)
    (congrArg₂ (· ++ ·) rfl ?traits) ?fallback) ?constraints) ?inside
  case traits =>
    rw [PropertyOf.mapTypes]
    cases p.characteristic with
    | trait m b cs => cases b <;> simp
    | _ => simp
  case fallback =>
    rw [p.kind_hollow, htype, hunwrapped, Characteristic.name_mapTypes]
  case constraints =>
    rw [PropertyOf.mapTypes, Characteristic.constraints_mapTypes]
  case inside =>
    rw [hunwrapped]
    cases p.characteristic.unwrapped with
    | either m l r => simp [PropertyOf.mapTypes]
    | structured m t rule parts => simp [partProperties_mapTypes]
    | _ => simp

theorem property_hollow_of {p : Property DataType}
    (h : ∀ location, inside location true (p.characteristic.mapTypes hollow p.name) =
      inside location true p.characteristic) (location : String) :
    property location (p.mapTypes hollow) = property location p := by
  have hproperty (q : Property DataType) : property location q =
      (ownFindings q).map (⟨location, ·⟩) ++ inside location true q.characteristic := by
    cases q
    rfl
  rw [hproperty, hproperty, ownFindings_hollow, PropertyOf.mapTypes, h]

theorem inside_hollow (c : Characteristic DataType) (location : String) (unwrap : Bool) :
    inside location unwrap (c.mapTypes hollow owner) = inside location unwrap c := by
  -- What an entity holds lies in a type, below the leaves of this induction.
  induction c using Characteristic.induction generalizing owner location unwrap with
  | either n l r ihl ihr =>
      rw [Characteristic.mapTypes_either, inside, inside,
        property_hollow_of fun location => ihl location true,
        property_hollow_of fun location => ihr location true]
      rfl
  | structured n t rule parts ih =>
      rw [Characteristic.mapTypes_structured, inside, inside, insideParts_eq, insideParts_eq,
        partProperties_mapTypes, List.flatMap_map]
      apply List.flatMap_congr
      intro q hq
      exact property_hollow_of (fun location => ih q hq location true) _
  | trait n b cs ih =>
      rw [Characteristic.mapTypes_trait, inside, inside, ih]
  | _ => simp [inside]

/-- Lint of a property and those inside it does not look into entities. -/
theorem property_hollow (location : String) (p : Property DataType) :
    property location (p.mapTypes hollow) = property location p :=
  property_hollow_of (fun location => inside_hollow _ location true) location

theorem properties_hollow (owner : String) (seen : List String) (ps : List (Property DataType)) :
    properties owner seen (ps.map (PropertyOf.mapTypes hollow)) = properties owner seen ps := by
  induction ps generalizing seen with
  | nil => rfl
  | cons p ps ih =>
      rw [List.map_cons, properties, properties, property_hollow, ih]
      rfl

end Lint

end Hollow

section Compose

variable {τ υ σ : Type} {f : String → τ → Option υ} {g : υ → σ} {h : τ → σ}

theorem map_type?_of_mapM (hturn : ∀ owner r t, f owner r = some t → g t = h r)
    {owner : String} {t : Option τ} {u : Option υ} (hu : t.mapM (f owner) = some u) :
    u.map g = t.map h := by
  cases t with
  | none =>
      obtain rfl : none = u := Option.some.inj hu
      rfl
  | some x =>
      obtain ⟨y, hy, rfl⟩ := Option.map_eq_some_iff.mp hu
      exact congrArg some (hturn owner x y hy)

theorem PropertyOf.mapTypes_of_traverse {p : Property τ} {q : Property υ}
    (hp : ∀ {d}, p.characteristic.traverse f p.name = some d →
      d.mapTypes g p.name = p.characteristic.mapTypes h p.name)
    (hq : traverseProperty f p = some q) : q.mapTypes g = p.mapTypes h := by
  obtain ⟨n, u, o, x, c⟩ := p
  obtain ⟨d, hd, hq⟩ := Option.bind_eq_some_iff.mp hq
  obtain rfl := Option.some.inj hq
  rw [mapTypes, mapTypes]
  simp only [hp hd]

theorem mapTypes_parts_of_traverse {ps : List (Part τ)} {qs : List (Part υ)}
    (hp : ∀ p ∈ partProperties ps, ∀ {q}, traverseProperty f p = some q →
      q.mapTypes g = p.mapTypes h)
    (hqs : traverseParts f ps = some qs) :
    qs.map (PartOf.mapTypes g) = ps.map (PartOf.mapTypes h) := by
  induction ps generalizing qs with
  | nil =>
      obtain rfl : [] = qs := Option.some.inj hqs
      rfl
  | cons p ps ih =>
      obtain ⟨q, hq, hrest⟩ := Option.bind_eq_some_iff.mp hqs
      obtain ⟨rest, htail, hqs⟩ := Option.bind_eq_some_iff.mp hrest
      obtain rfl := Option.some.inj hqs
      rw [List.map_cons, List.map_cons]
      cases p with
      | literal s =>
          obtain rfl := Option.some.inj hq
          exact congrArg (PartOf.literal s :: ·) (ih hp htail)
      | property p =>
          obtain ⟨r, hr, hq⟩ := Option.bind_eq_some_iff.mp hq
          obtain rfl := Option.some.inj hq
          exact congrArg₂ List.cons (congrArg PartOf.property (hp p List.mem_cons_self hr))
            (ih (fun p hps => hp p (List.mem_cons_of_mem _ hps)) htail)

/-- What a traversal and then `g` make of the types is what `h` makes of them at once. -/
theorem Characteristic.mapTypes_of_traverse
    (hturn : ∀ owner r t, f owner r = some t → g t = h r) (c : Characteristic τ)
    {owner : String} {d : Characteristic υ} (hd : c.traverse f owner = some d) :
    d.mapTypes g owner = c.mapTypes h owner := by
  induction c using Characteristic.induction generalizing owner d with
  | scalar n t u =>
      obtain ⟨s, hs, hd⟩ := Option.bind_eq_some_iff.mp hd
      obtain rfl := Option.some.inj hd
      rw [mapTypes_scalar, mapTypes_scalar, map_type?_of_mapM hturn hs]
  | enumeration n t vs =>
      obtain ⟨s, hs, hd⟩ := Option.bind_eq_some_iff.mp hd
      obtain rfl := Option.some.inj hd
      rw [mapTypes_enumeration, mapTypes_enumeration, map_type?_of_mapM hturn hs]
  | collection n k t e ih =>
      obtain ⟨e', he, hrest⟩ := Option.bind_eq_some_iff.mp hd
      obtain ⟨s, hs, hd⟩ := Option.bind_eq_some_iff.mp hrest
      obtain rfl := Option.some.inj hd
      rw [mapTypes_collection, mapTypes_collection, map_type?_of_mapM hturn hs]
      cases e with
      | none =>
          obtain rfl := Option.some.inj he
          rfl
      | some c =>
          obtain ⟨c', hc, he⟩ := Option.bind_eq_some_iff.mp he
          obtain rfl := Option.some.inj he
          rw [Option.map_some, Option.map_some, ih c rfl hc]
  | either n l r ihl ihr =>
      obtain ⟨l', hl, hrest⟩ := Option.bind_eq_some_iff.mp hd
      obtain ⟨r', hr, hd⟩ := Option.bind_eq_some_iff.mp hrest
      obtain rfl := Option.some.inj hd
      rw [mapTypes_either, mapTypes_either, PropertyOf.mapTypes_of_traverse ihl hl,
        PropertyOf.mapTypes_of_traverse ihr hr]
  | structured n t rule ps ih =>
      obtain ⟨qs, hqs, hrest⟩ := Option.bind_eq_some_iff.mp hd
      obtain ⟨s, hs, hd⟩ := Option.bind_eq_some_iff.mp hrest
      obtain rfl := Option.some.inj hd
      rw [mapTypes_structured, mapTypes_structured, map_type?_of_mapM hturn hs,
        mapTypes_parts_of_traverse
          (fun p hp => PropertyOf.mapTypes_of_traverse (ih p hp)) hqs]
  | singleEntity n t =>
      obtain ⟨s, hs, hd⟩ := Option.bind_eq_some_iff.mp hd
      obtain rfl := Option.some.inj hd
      rw [mapTypes_singleEntity, mapTypes_singleEntity, hturn owner t s hs]
  | trait n b cs ih =>
      obtain ⟨b', hb, hd⟩ := Option.bind_eq_some_iff.mp hd
      obtain rfl := Option.some.inj hd
      rw [mapTypes_trait, mapTypes_trait, ih hb]

end Compose

/-- The issues of a container as it is written. -/
def Lint.written (w : Element TypeRef) : List Issue :=
  properties w.name [] (w.properties.map (PropertyOf.mapTypes TypeRef.hollow))

/-- Lint of a container is told by what is written in it, whichever entities its references
are filled with. -/
theorem Lint.element_of_fill {registry : Registry} {w : Element TypeRef} {x : Element DataType}
    (h : w.traverse (fun _ => TypeRef.fill (named? registry)) = some x) :
    element x = written w := by
  obtain ⟨ps, hps, hx⟩ := Option.bind_eq_some_iff.mp h
  obtain rfl := Option.some.inj hx
  have hsame : List.Forall₂ (fun w p => w.mapTypes TypeRef.hollow = p.mapTypes DataType.hollow)
      w.properties ps := by
    refine (forall₂_of_mapM hps).imp fun w p hp => ?_
    have hturn (_ : String) (r : TypeRef) (t : DataType)
        (ht : r.fill (named? registry) = some t) : t.hollow = r.hollow :=
      TypeRef.hollow_of_fill ht
    exact (PropertyOf.mapTypes_of_traverse
      (Characteristic.mapTypes_of_traverse hturn _) hp).symm
  rw [← List.forall₂_map_right_iff, ← List.forall₂_map_left_iff,
    List.forall₂_eq_eq_eq] at hsame
  rw [element, written, hsame, properties_hollow]

namespace Document

variable {doc doc' : Document} {model model' : Model}

/-- Every container of a model comes from one of the document, in the same order. -/
theorem forall₂_containers (h : doc.resolve = .ok model) :
    List.Forall₂ (fun w x => x.name = w.name ∧ Lint.element x = Lint.written w)
      (doc.aspect :: doc.entities) (model.aspect :: model.entities) := by
  obtain ⟨registry, hbuilds, hentities, haspect⟩ := resolve_ok h
  refine .cons ⟨name_traverse haspect, Lint.element_of_fill haspect⟩ ?_
  have hmem : List.Forall₂ (fun w x => w ∈ doc.entities ∧ named? registry w.name = some x)
      doc.entities model.entities :=
    (List.forall₂_and_left _ _).mpr ⟨fun _ hw => hw, forall₂_of_mapM hentities⟩
  refine hmem.imp fun w x ⟨hw, hx⟩ => ?_
  obtain ⟨written, hwritten, hfill⟩ := hbuilds.mem (mem_of_named? hx)
  rw [name_of_named? hx, entity?_of_mem hw] at hwritten
  obtain rfl := Option.some.inj hwritten
  exact ⟨name_of_named? hx, Lint.element_of_fill hfill⟩

/-- The issues of a model are those of the aspect and then of each entity by
name.  Where two documents write a container alike, be it the aspect or an
entity, its issues are the same in both models, whatever it refers to and
wherever it is referred to. -/
theorem lint_local (h : doc.resolve = .ok model) (h' : doc'.resolve = .ok model') :
    model.lint = ((model.aspect :: model.entities).map Lint.element).flatten ∧
      (model.aspect :: model.entities).map Element.name =
        (doc.aspect :: doc.entities).map Element.name ∧
      (model.entities.map Element.name).Pairwise (· < ·) ∧
      ∀ w x w' x',
        (w, x) ∈ (doc.aspect :: doc.entities).zip (model.aspect :: model.entities) →
        (w', x') ∈ (doc'.aspect :: doc'.entities).zip (model'.aspect :: model'.entities) →
        w.name = w'.name → w.properties = w'.properties →
        Lint.element x = Lint.element x' := by
  have hall := forall₂_containers h
  have hall' := forall₂_containers h'
  refine ⟨rfl, ?_, ?_, ?_⟩
  · rw [List.map_cons, List.map_cons, names_of_resolve h]
    exact congrArg (· :: doc.names) (List.forall₂_cons.mp hall).1.1
  · rw [names_of_resolve h]
    exact doc.ascending
  · intro w x w' x' hw hw' hname hproperties
    calc Lint.element x
        = Lint.written w := (List.forall₂_zip hall hw).2
      _ = Lint.written w' := by rw [Lint.written, Lint.written, hname, hproperties]
      _ = Lint.element x' := (List.forall₂_zip hall' hw').2.symm

end Document

namespace LocalityWitness

open NestedEntitiesWitness (string)
open SiblingsWitness (text)
open UnfoldingWitness (typed)

/-- A place with a name that cannot name a member, and its position. -/
def place {τ : Type} (type position : τ) : Element τ :=
  ⟨"Place", none, [text type "full name", typed "position" position]⟩

/-- An element whose properties all have one type. -/
def visit {τ : Type} (name : String) (names : List String) (type : τ) : Element τ :=
  ⟨name, none, names.map (typed · type)⟩

/-- The properties `visits` of the aspect are places; the properties `marks` of a point
are texts. -/
def document (visits marks : List String) : Document where
  aspect := visit "Tour" visits (.entity "Place")
  entities :=
    [place (.scalar "xsd:string") (.entity "Point"),
      visit "Point" marks (.scalar "xsd:string")]
  ascending := by
    change ["Place", "Point"].Pairwise (· < ·)
    decide +kernel

/-- The place as it is resolved. -/
def resolved (marks : List String) : Element DataType :=
  place string (.entity (visit "Point" marks string))

def model (visits marks : List String) : Model :=
  ⟨visit "Tour" visits (.entity (resolved marks)), [resolved marks, visit "Point" marks string]⟩

theorem lint_local_of_tour :
    (document ["start"] []).resolve = .ok (model ["start"] []) ∧
      (document ["start", "end"] ["x", "x"]).resolve =
        .ok (model ["start", "end"] ["x", "x"]) ∧
      (model ["start", "end"] ["x", "x"]).lint.map Issue.location =
        ["Place.full name", "Point.x"] ∧
      Lint.element (resolved []) = Lint.element (resolved ["x", "x"]) := by
  have hresolve : (document ["start"] []).resolve = .ok (model ["start"] []) :=
    Document.resolve_of_unfold (by decide +kernel) rfl
  have hresolve' : (document ["start", "end"] ["x", "x"]).resolve =
      .ok (model ["start", "end"] ["x", "x"]) :=
    Document.resolve_of_unfold (by decide +kernel) rfl
  obtain ⟨_, _, _, halike⟩ := Document.lint_local hresolve hresolve'
  have hplace : (place (.scalar "xsd:string") (.entity "Point"), resolved []) ∈
      ((document ["start"] []).aspect :: (document ["start"] []).entities).zip
        ((model ["start"] []).aspect :: (model ["start"] []).entities) :=
    List.mem_cons_of_mem _ List.mem_cons_self
  have hplace' : (place (.scalar "xsd:string") (.entity "Point"), resolved ["x", "x"]) ∈
      ((document ["start", "end"] ["x", "x"]).aspect ::
          (document ["start", "end"] ["x", "x"]).entities).zip
        ((model ["start", "end"] ["x", "x"]).aspect ::
          (model ["start", "end"] ["x", "x"]).entities) :=
    List.mem_cons_of_mem _ List.mem_cons_self
  exact ⟨hresolve, hresolve', by decide +kernel, halike _ _ _ _ hplace hplace' rfl rfl⟩

end LocalityWitness

end AspectForms
