import AspectForms.Proofs.Resolution

/-!
Resolution beside plain unfolding, which replaces a reference wherever it meets one and remembers
nothing.  Main statement: they give the same model, whose entities are those of the document in order and
hold every entity that a property refers to, at whatever depth.
-/

namespace AspectForms

namespace Document

/-- The entity of a name with its references replaced, and those inside them,
down to `depth` levels; nothing if there are more levels or a name is not
defined. -/
def unfoldEntity (doc : Document) : Nat → String → Option (Element DataType)
  | 0, _ => none
  | depth + 1, name => do
    let written ← doc.entity? name
    written.traverse fun _ => TypeRef.fill (doc.unfoldEntity depth)

/-- The model of a document by unfolding. -/
def unfold (doc : Document) (depth : Nat) : Option Model := do
  let entities ← doc.entities.mapM fun e => doc.unfoldEntity depth e.name
  let aspect ← doc.aspect.traverse fun _ =>
    TypeRef.fill (doc.unfoldEntity depth)
  return ⟨aspect, entities⟩

variable {doc : Document}

theorem unfoldEntity_succ {depth : Nat} {name : String}
    {e : Element DataType} (h : doc.unfoldEntity depth name = some e) :
    doc.unfoldEntity (depth + 1) name = some e := by
  induction depth generalizing name e with
  | zero => cases h
  | succ depth ih =>
      obtain ⟨written, hwritten, htraverse⟩ := Option.bind_eq_some_iff.mp h
      refine Option.bind_eq_some_iff.mpr ⟨written, hwritten, ?_⟩
      have hmore : refining.rel
          (written.traverse fun _ => TypeRef.fill (doc.unfoldEntity depth))
          (written.traverse fun _ =>
            TypeRef.fill (doc.unfoldEntity (depth + 1))) :=
        refining.element_of fun r _ =>
          TypeRef.fill_mono (fun _ _ hold => ih hold) r.2
      exact hmore e htraverse

/-- Further levels do not change what unfolding has given. -/
theorem unfoldEntity_mono {depth more : Nat} (hle : depth ≤ more)
    {name : String} {e : Element DataType}
    (h : doc.unfoldEntity depth name = some e) :
    doc.unfoldEntity more name = some e := by
  obtain ⟨extra, rfl⟩ := Nat.exists_eq_add_of_le hle
  induction extra with
  | zero => exact h
  | succ extra ih => exact unfoldEntity_succ (ih (Nat.le_add_right _ _))

/-- An entity of a registry is its own unfolding, which is no deeper than the
registry is long. -/
theorem Builds.unfoldEntity {registry : Registry}
    (h : doc.Builds registry) {e : Element DataType} (he : e ∈ registry) :
    doc.unfoldEntity registry.length e.name = some e := by
  induction h generalizing e with
  | empty => cases he
  | @add registry written entity _ _ hwritten hentity ih =>
      rw [List.length_append, List.length_singleton]
      rcases List.mem_append.mp he with hold | hnew
      · exact unfoldEntity_succ (ih hold)
      · obtain rfl := List.mem_singleton.mp hnew
        rw [name_traverse hentity]
        refine Option.bind_eq_some_iff.mpr ⟨written, hwritten, ?_⟩
        have hunfold : refining.rel
            (written.traverse fun _ => TypeRef.fill (named? registry))
            (written.traverse fun _ =>
              TypeRef.fill (doc.unfoldEntity registry.length)) := by
          refine refining.element_of fun r _ => TypeRef.fill_mono ?_ r.2
          intro name d hd
          exact name_of_named? hd ▸ ih (mem_of_named? hd)
        exact hunfold _ hentity

theorem Builds.names_nodup {registry : Registry} (h : doc.Builds registry) :
    (registry.map Element.name).Nodup := by
  induction h with
  | empty => exact List.nodup_nil
  | @add registry written entity _ hnone _ hentity ih =>
      rw [List.map_append, List.map_singleton, name_traverse hentity,
        ← List.concat_eq_append]
      exact ih.concat (named?_eq_none_iff.mp hnone)

/-- A registry has no more entities than the document. -/
theorem Builds.length_le {registry : Registry} (h : doc.Builds registry) :
    registry.length ≤ doc.entities.length := by
  have hsub : registry.map Element.name ⊆ doc.names := by
    intro name hname
    obtain ⟨e, he, rfl⟩ := List.mem_map.mp hname
    obtain ⟨_, hwritten, _⟩ := h.mem he
    exact mem_names_of_entity? hwritten
  have hle := h.names_nodup.length_le_of_subset hsub
  rwa [List.length_map, names, List.length_map] at hle

end Document

/-- A property of `x` has the entity `e` as its type, or has it inside its
characteristic. -/
def Element.Mentions (x e : Element DataType) : Prop :=
  ∃ owner, (owner, .entity e) ∈ x.references

namespace Document

variable {doc : Document} {model : Model}

theorem Builds.mentions {registry : Registry} {written : Element TypeRef}
    {x e : Element DataType}
    (hx : written.traverse (fun _ => TypeRef.fill (named? registry)) = some x)
    (hmention : x.Mentions e) : named? registry e.name = some e := by
  obtain ⟨owner, href⟩ := hmention
  obtain ⟨r, _, hr, _⟩ :=
    exists_left_of_forall₂ (turned_element hx) (owner, .entity e) href
  obtain ⟨name, _, hname⟩ := TypeRef.fill_eq_entity hr
  exact name_of_named? hname ▸ hname

theorem names_of_resolve (h : doc.resolve = .ok model) :
    model.entities.map Element.name = doc.names := by
  obtain ⟨registry, _, hentities, _⟩ := resolve_ok h
  have hsame := (forall₂_of_mapM hentities).imp fun w e he =>
    (name_of_named? he).symm
  rw [← List.forall₂_map_right_iff, ← List.forall₂_map_left_iff,
    List.forall₂_eq_eq_eq] at hsame
  exact hsame.symm

/-- The entities of a model have every entity that a property mentions. -/
theorem named?_of_mentions (h : doc.resolve = .ok model)
    {x e : Element DataType} (hx : x ∈ model.aspect :: model.entities)
    (hmention : x.Mentions e) : named? model.entities e.name = some e := by
  obtain ⟨registry, hbuilds, hentities, haspect⟩ := resolve_ok h
  have hall := forall₂_of_mapM hentities
  have hregistered : named? registry e.name = some e := by
    rcases List.mem_cons.mp hx with rfl | hx
    · exact Builds.mentions haspect hmention
    · obtain ⟨w, _, hw⟩ := exists_left_of_forall₂ hall x hx
      obtain ⟨_, _, htraverse⟩ := hbuilds.mem (mem_of_named? hw)
      exact Builds.mentions htraverse hmention
  obtain ⟨written, hwritten, _⟩ := hbuilds.mem (mem_of_named? hregistered)
  obtain ⟨d, hd, hfound⟩ :=
    exists_right_of_forall₂ hall written (mem_of_named? hwritten)
  rw [name_of_named? hwritten, hregistered] at hfound
  obtain rfl := Option.some.inj hfound
  exact named?_of_mem (names_of_resolve h ▸ doc.names_nodup) hd

theorem unfold_of_resolve (h : doc.resolve = .ok model) (extra : Nat) :
    doc.unfold (doc.entities.length + extra) = some model := by
  obtain ⟨registry, hbuilds, hentities, haspect⟩ := resolve_ok h
  have hfound (name : String) (e : Element DataType)
      (he : named? registry name = some e) :
      doc.unfoldEntity (doc.entities.length + extra) name = some e := by
    rw [← name_of_named? he]
    exact unfoldEntity_mono (Nat.le_add_right_of_le hbuilds.length_le)
      (hbuilds.unfoldEntity (mem_of_named? he))
  have hunfold : refining.rel
      (doc.entities.mapM fun w => named? registry w.name)
      (doc.entities.mapM fun w =>
        doc.unfoldEntity (doc.entities.length + extra) w.name) :=
    refining.mapM_list fun w _ => hfound w.name
  have hfill : refining.rel
      (doc.aspect.traverse fun _ => TypeRef.fill (named? registry))
      (doc.aspect.traverse fun _ =>
        TypeRef.fill (doc.unfoldEntity (doc.entities.length + extra))) :=
    refining.element_of fun r _ => TypeRef.fill_mono hfound r.2
  exact Option.bind_eq_some_iff.mpr ⟨_, hunfold _ hentities,
    Option.bind_eq_some_iff.mpr ⟨_, hfill _ haspect, rfl⟩⟩

/-- What plain unfolding returns is the model of a document that resolves. -/
theorem resolve_of_unfold (hok : doc.resolve.isOk = true)
    (h : doc.unfold doc.entities.length = some model) :
    doc.resolve = .ok model := by
  cases hresolve : doc.resolve with
  | error e =>
      rw [hresolve] at hok
      cases hok
  | ok result =>
      have hunfold := unfold_of_resolve hresolve 0
      rw [Nat.add_zero, h] at hunfold
      rw [Option.some.inj hunfold]

/-- Resolution returns what plain unfolding returns, at any depth from the
number of entities on.  The entities of the model are those of the document,
once each and in ascending order of their names, and wherever the model holds
an entity, the one of that name among them is the same. -/
theorem resolve_eq_unfold (h : doc.resolve = .ok model) :
    (∀ extra, doc.unfold (doc.entities.length + extra) = some model) ∧
      model.entities.map Element.name = doc.entities.map Element.name ∧
      (model.entities.map Element.name).Pairwise (· < ·) ∧
      ∀ x ∈ model.aspect :: model.entities, ∀ e,
        Relation.TransGen Element.Mentions x e →
        named? model.entities e.name = some e := by
  refine ⟨unfold_of_resolve h, names_of_resolve h, ?_, ?_⟩
  · rw [names_of_resolve h]
    exact doc.ascending
  · intro x hx e hreach
    induction hreach with
    | single hmention => exact named?_of_mentions h hx hmention
    | tail _ hmention ih =>
        exact named?_of_mentions h
          (List.mem_cons_of_mem _ (mem_of_named? ih)) hmention

end Document

namespace UnfoldingWitness

def typed {τ : Type} (name : String) (type : τ) : Property τ :=
  ⟨name, none, false, none, .singleEntity "SingleEntity" type⟩

/-- Two ways lead from the aspect to `Point`, one of them through `Area`. -/
def document : Document where
  aspect := ⟨"Track", none,
    [typed "start" (.entity "Point"), typed "field" (.entity "Area")]⟩
  entities :=
    [⟨"Area", none, [typed "corner" (.entity "Point")]⟩,
      ⟨"Point", none, [typed "x" (.scalar "xsd:float")]⟩]
  ascending := by decide +kernel

def point : Element DataType :=
  ⟨"Point", none,
    [typed "x" (.scalar "http://www.w3.org/2001/XMLSchema#float")]⟩

def area : Element DataType :=
  ⟨"Area", none, [typed "corner" (.entity point)]⟩

def model : Model :=
  ⟨⟨"Track", none,
    [typed "start" (.entity point), typed "field" (.entity area)]⟩,
    [area, point]⟩

theorem resolve_document : document.resolve = .ok model :=
  Document.resolve_of_unfold (by decide +kernel) rfl

theorem resolve_eq_unfold_of_diamond :
    document.resolve = .ok model ∧
      (∀ extra, document.unfold (2 + extra) = some model) ∧
      model.entities.map Element.name = ["Area", "Point"] ∧
      (model.entities.map Element.name).Pairwise (· < ·) ∧
      ∀ x ∈ model.aspect :: model.entities, ∀ e,
        Relation.TransGen Element.Mentions x e →
        named? model.entities e.name = some e :=
  ⟨resolve_document, Document.resolve_eq_unfold resolve_document⟩

end UnfoldingWitness

end AspectForms
